import PointOfFocus.Proofs.Query.Stream

/-!
# Reading names, literals and the point of focus

The parser reads the phrase of a term as the term that it stands for.
-/

namespace PointOfFocus.Query

open PointOfFocus.Rdf
open PointOfFocus.Text (upper)
open Phrase

/-! ### Cutting texts -/

/-- The angle brackets of an IRI are taken off. -/
theorem unwrap_brackets (iri : String) : unwrap 1 ("<" ++ iri ++ ">") = iri := by
  have hlen : ("<" ++ iri ++ ">").length - 2 * 1 = iri.toList.length := by
    rw [String.length_append, String.length_append, String.length_toList]
    show 1 + iri.length + 1 - 2 = iri.length
    omega
  rw [unwrap, hlen]
  simp

/-- A name without the mark before it is left when the mark is dropped. -/
theorem dropFirst_mark (mark : Char) (x : String) : dropFirst 1 (String.singleton mark ++ x) = x := by
  simp [dropFirst]

/-- A prefixed name is split at its first colon. -/
theorem splitName_eq {label part : String} (h : ':' ∉ label.toList) :
    splitName (label ++ ":" ++ part) = (label, part) := by
  have hlabel : (label ++ ":" ++ part).toList.takeWhile (fun c => decide (c ≠ ':')) = label.toList := by
    have htext : (label ++ ":" ++ part).toList = label.toList ++ ':' :: part.toList := by simp
    rw [htext, List.takeWhile_append_of_pos]
    · simp
    · intro c hc
      simpa using fun he : c = ':' => h (he ▸ hc)
  rw [splitName, hlabel]
  simp

/-! ### Names -/

section

variable {labels : Labels} {s : State} {rest : List Token}

/-- A name that was taken stands for its IRI. -/
theorem resolveName_apply {label part : String} {t : Token} (hdeclared : (Name.short label part).Declared labels)
    (hs : ∀ l, s.scope.prefixIri? l = labels l) (ht : t.text = label ++ ":" ++ part) :
    resolveName t s = (.ok ((Name.short label part).iri labels), s) := by
  obtain ⟨hcolon, hsome⟩ := hdeclared
  obtain ⟨iri, hiri⟩ := Option.isSome_iff_exists.1 hsome
  simp [resolveName, ht, splitName_eq hcolon, resolve, bind_apply, get_apply, hs, hiri, pure_apply, Name.iri]

/-! ### Literals -/

/-- The token neither qualifies a text nor leads to what does. -/
def Token.EndsText (t : Token) : Prop := t.kind ≠ .language ∧ t.kind ≠ .datatypeMark

private theorem datatypeIri_apply {name : Name} (hdeclared : name.Declared labels)
    (hs : ∀ l, s.scope.prefixIri? l = labels l) {t : Token} (ht : name.piece.Matches t)
    (hahead : s.ahead = t :: rest) :
    datatypeIri s = (.ok (name.iri labels), { s with ahead := rest }) := by
  have htoken := token_of_ahead hahead
  cases name with
  | full iri =>
    obtain ⟨hkind, htext⟩ := ht
    simp only [datatypeIri, bind_apply, token_apply, htoken, hkind, advance_apply, pure_apply, htext,
      unwrap_brackets, hahead, List.tail_cons, Name.iri]
  | short label part =>
    obtain ⟨hkind, htext⟩ := ht
    simp only [datatypeIri, bind_apply, token_apply, htoken, hkind, advance_apply, hahead, List.tail_cons]
    exact resolveName_apply hdeclared hs htext

/-- A text with its suffix is read as the literal that it writes. -/
theorem textLiteral_apply {written lexical : String} {suffix : Suffix} (htext : quotedText written = .ok lexical)
    (hsuffix : suffix.Declared labels) (hs : ∀ l, s.scope.prefixIri? l = labels l)
    (hahead : Ahead (.exact .string written :: suffix.pieces) s.ahead rest)
    (hend : suffix = .none → Token.EndsText (rest.headD s.last)) :
    textLiteral s = (.ok (suffix.literal labels lexical), { s with ahead := rest }) := by
  obtain ⟨t, later, hts, ⟨-, rfl⟩, hlater⟩ := hahead
  simp only [textLiteral, bind_apply, advance_apply, token_of_ahead hts, htext, token_apply, hts, List.tail_cons]
  cases suffix with
  | none =>
    obtain rfl : later = rest := hlater
    obtain ⟨hlanguage, hmark⟩ := hend rfl
    simp only [State.token]
    rfl
  | language tag =>
    obtain ⟨u, after, rfl, ⟨hkind, hu⟩, rfl⟩ := hlater
    simp only [State.token, List.headD_cons, hkind, bind_apply, advance_apply, pure_apply, List.tail_cons, hu]
    exact congrArg (fun tag => (Except.ok (⟨lexical, .language tag⟩ : Literal), _)) (dropFirst_mark '@' tag)
  | datatype name =>
    obtain ⟨u, after, rfl, ⟨hkind, -⟩, v, end', rfl, hv, rfl⟩ := hlater
    simp only [State.token, List.headD_cons, hkind, bind_apply, advance_apply, List.tail_cons]
    have hiri : datatypeIri { s with ahead := v :: end' } = (.ok (name.iri labels), { s with ahead := end' }) :=
      datatypeIri_apply hsuffix hs hv rfl
    rw [hiri]
    rfl

theorem numberType?_ne_eof {kind : Kind} {type : String} (h : numberType? kind = some type) : kind ≠ .eof := by
  rintro rfl
  cases h

private theorem numberType?_kind (numeral : Numeral) : numberType? numeral.kind = some numeral.datatype := by
  cases numeral <;> rfl

private theorem number_apply {negative : Bool} {numeral : Numeral} {digits : String}
    (hahead : Ahead (Atom.number negative numeral digits).pieces s.ahead rest) :
    number s = (.ok (.typed ((if negative then "-" else "") ++ digits) numeral.datatype), { s with ahead := rest }) := by
  cases negative with
  | false =>
    obtain ⟨t, later, hts, ⟨hkind, htext⟩, rfl⟩ := hahead
    have hplus : t.kind ≠ .symbol .plus := by rw [hkind]; cases numeral <;> simp [Numeral.kind]
    have hminus : t.kind ≠ .symbol .minus := by rw [hkind]; cases numeral <;> simp [Numeral.kind]
    simp only [number, bind_apply, atSymbol_apply, token_of_ahead hts, hplus, hminus, decide_false, Bool.or_self,
      Bool.false_eq_true, ↓reduceIte, unsignedNumber, token_apply]
    simp only [hkind, numberType?_kind, bind_apply, advance_apply, pure_apply, token_of_ahead hts, htext, hts,
      List.tail_cons]
  | true =>
    obtain ⟨t, later, hts, ⟨hkind, htext⟩, u, after, rfl, ⟨hnumeral, hdigits⟩, rfl⟩ := hahead
    simp only [number, bind_apply, atSymbol_apply, token_of_ahead hts, hkind, decide_true, Bool.or_true, ↓reduceIte,
      advance_apply, unsignedNumber, token_apply, hts, List.tail_cons]
    simp only [State.token, List.headD_cons, hnumeral, numberType?_kind, bind_apply, advance_apply, pure_apply,
      htext, hdigits, List.tail_cons, Symbol.text]

/-! ### The point of focus -/

/-- Setting the keyword changes nothing else. -/
theorem setKeyword_patterns (word : String) (scope : Scope) :
    (scope.setKeyword word).patterns = scope.patterns ∧ (scope.setKeyword word).prefixes = scope.prefixes ∧
      (scope.setKeyword word).current = scope.current := by
  unfold Scope.setKeyword
  split <;> exact ⟨rfl, rfl, rfl⟩

/-- The first point of focus is taken with its hint. -/
theorem pointOfFocus_apply {hint : Hint} {t : Token} (role : Role) (hfits : HintFits labels hint)
    (hrole : ∀ length, hint = .pathLength length → role = .predicate)
    (hs : Ready labels 1 s) (hahead : s.ahead = t :: rest) (hkind : t.kind = .focus hint) :
    ∃ after, pointOfFocus role s = (.ok .focus, after) ∧ Moves s after rest s.anonymous 1 [] ∧
      after.scope.current = s.scope.current := by
  -- there is room for one marker only if none was met before
  have hnone : s.focus = none := by
    have := hs.room
    cases hfocus : s.focus with
    | none => rfl
    | some u => simp [hfocus] at this
  cases hint with
  | none =>
    refine ⟨{ s with ahead := rest, focus := some ⟨t, role⟩ }, ?_, ⟨rfl, rfl, rfl, by simp [hnone], by simp, rfl⟩, rfl⟩
    simp only [pointOfFocus, bind_apply, advance_apply, token_of_ahead hahead, get_apply, hnone, Option.isSome_none,
      Bool.false_eq_true, ↓reduceIte, modify_apply, hkind, pure_apply, hahead, List.tail_cons]
  | keyword word =>
    obtain ⟨hpatterns, hprefixes, hcurrent⟩ := setKeyword_patterns word s.scope
    refine ⟨{ s with ahead := rest, focus := some ⟨t, role⟩, scope := s.scope.setKeyword word }, ?_,
      ⟨rfl, rfl, rfl, by simp [hnone], by simp [hpatterns], hprefixes⟩, hcurrent⟩
    simp only [pointOfFocus, bind_apply, advance_apply, token_of_ahead hahead, get_apply, hnone, Option.isSome_none,
      Bool.false_eq_true, ↓reduceIte, modify_apply, hkind, pure_apply, hahead, List.tail_cons, collect_apply]
  | nameStart label part =>
    obtain ⟨iri, hiri⟩ := Option.isSome_iff_exists.1 hfits
    refine ⟨{ s with ahead := rest, focus := some ⟨t, role⟩, scope := s.scope.setIriStart (iri ++ part) }, ?_,
      ⟨rfl, rfl, rfl, by simp [hnone], by simp [Scope.setIriStart], rfl⟩, rfl⟩
    simp only [pointOfFocus, bind_apply, advance_apply, token_of_ahead hahead, get_apply, hnone, Option.isSome_none,
      Bool.false_eq_true, ↓reduceIte, modify_apply, hkind, pure_apply, hahead, List.tail_cons, collect_apply,
      resolve, hs.labels, hiri]
  | pathLength length =>
    have hpositive : ¬ length < 1 := Nat.not_lt.2 hfits
    refine ⟨{ s with ahead := rest, focus := some ⟨t, role⟩, scope := s.scope.setPathLength length }, ?_,
      ⟨rfl, rfl, rfl, by simp [hnone], by simp [Scope.setPathLength], rfl⟩, rfl⟩
    simp only [pointOfFocus, bind_apply, advance_apply, token_of_ahead hahead, get_apply, hnone, Option.isSome_none,
      Bool.false_eq_true, ↓reduceIte, modify_apply, hkind, pure_apply, hahead, List.tail_cons, collect_apply,
      hrole length rfl, ne_eq, not_true_eq_false, hpositive]

/-! ### Terms without inner terms -/

theorem isTruth_of_matches {value : Bool} {t : Token} (h : (Piece.truth value).Matches t) : t.isTruth = true := by
  obtain ⟨hkind, htext⟩ := h
  cases value <;> simp [Token.isTruth, hkind, htext, truthWord]

/-- The term is a text that a language or a datatype could follow. -/
def Phrase.Atom.IsPlainText : Atom → Prop
  | .text _ _ .none => True
  | _ => False

/-- A term without inner terms is read as what it stands for, unless it is a text that goes on after it. -/
theorem simpleTerm_reads_before {a : Atom} (role : Role) (hfits : a.Fits labels) :
    Reads labels (simpleTerm role) a.pieces (fun n => ⟨a.term labels, [], n⟩) fun t => a.IsPlainText → t.EndsText := by
  intro s rest hs hahead hend
  cases a with
  | focus hint =>
    obtain ⟨t, later, hts, ⟨hkind, -⟩, rfl⟩ := hahead
    obtain ⟨hhint, hlength⟩ := hfits
    obtain ⟨after, hafter, hmoves, hcurrent⟩ :=
      pointOfFocus_apply role hhint (fun length h => absurd h (hlength length)) hs hts hkind
    refine ⟨after, ?_, hmoves, hcurrent⟩
    simp only [simpleTerm, bind_apply, token_apply, token_of_ahead hts, hkind, hafter, Atom.term]
  | var mark x =>
    obtain ⟨t, later, hts, ⟨hkind, htext⟩, rfl⟩ := hahead
    refine ⟨_, ?_, Moves.take hts, rfl⟩
    simp only [simpleTerm, bind_apply, token_apply, token_of_ahead hts, hkind, advance_apply, pure_apply, htext,
      dropFirst_mark, Atom.term]
  | iri name =>
    obtain ⟨t, later, hts, ht, rfl⟩ := hahead
    have hmarkers : markers [name.piece] = 0 := by cases name <;> rfl
    refine ⟨{ s with ahead := s.ahead.tail }, ?_, hmarkers ▸ Moves.take hts, rfl⟩
    cases name with
    | full iri =>
      obtain ⟨hkind, htext⟩ := ht
      simp only [simpleTerm, bind_apply, token_apply, token_of_ahead hts, hkind, advance_apply, pure_apply, htext,
        unwrap_brackets, Atom.term, Name.iri]
    | short label part =>
      obtain ⟨hkind, htext⟩ := ht
      have hname := resolveName_apply (s := { s with ahead := s.ahead.tail }) hfits hs.labels htext
      simp only [simpleTerm, bind_apply, token_apply, token_of_ahead hts, hkind, advance_apply, pure_apply, hname,
        Atom.term]
  | blank label =>
    obtain ⟨t, later, hts, ⟨hkind, htext⟩, rfl⟩ := hahead
    refine ⟨_, ?_, Moves.take hts, rfl⟩
    have hlabel : dropFirst 2 ("_:" ++ label) = label := by simp [dropFirst]
    simp only [simpleTerm, bind_apply, token_apply, token_of_ahead hts, hkind, advance_apply, pure_apply, htext,
      hlabel, Atom.term]
  | text written lexical suffix =>
    have hliteral := textLiteral_apply hfits.1 hfits.2 hs.labels hahead fun hsuffix => hend (by rw [hsuffix]; trivial)
    obtain ⟨t, later, hts, ⟨hkind, htext⟩, hlater⟩ := hahead
    refine ⟨{ s with ahead := rest }, ?_, ?_, rfl⟩
    · simp only [simpleTerm, bind_apply, token_apply, token_of_ahead hts, hkind, hliteral, pure_apply, Atom.term]
    · have hmarkers : markers (Atom.text written lexical suffix).pieces = 0 := by
        cases suffix with
        | none => rfl
        | language tag => rfl
        | datatype name => cases name <;> rfl
      exact hmarkers ▸ Moves.to s rest
  | number negative numeral digits =>
    have hnumber := number_apply hahead
    refine ⟨{ s with ahead := rest }, ?_, ?_, rfl⟩
    · cases negative with
      | false =>
        obtain ⟨t, later, hts, ⟨hkind, htext⟩, -⟩ := hahead
        cases numeral <;>
          simp only [simpleTerm, bind_apply, token_apply, token_of_ahead hts, hkind, Numeral.kind, hnumber,
            pure_apply, Atom.term]
      | true =>
        obtain ⟨t, later, hts, ⟨hkind, htext⟩, -⟩ := hahead
        simp only [simpleTerm, bind_apply, token_apply, token_of_ahead hts, hkind, hnumber, pure_apply, Atom.term]
    · have hmarkers : markers (Atom.number negative numeral digits).pieces = 0 := by
        cases negative <;> cases numeral <;> rfl
      exact hmarkers ▸ Moves.to s rest
  | truth value =>
    obtain ⟨t, later, hts, ht, rfl⟩ := hahead
    refine ⟨_, ?_, Moves.take hts, rfl⟩
    have htruth := isTruth_of_matches ht
    obtain ⟨hkind, htext⟩ := ht
    simp only [simpleTerm, bind_apply, token_apply, token_of_ahead hts, hkind, htruth, ↓reduceIte, advance_apply,
      pure_apply, htext, String.ofList_toList, Atom.term]

/-- A term without inner terms is read as what it stands for before a token that no text goes on with. -/
theorem simpleTerm_reads {a : Atom} (role : Role) (hfits : a.Fits labels) :
    Reads labels (simpleTerm role) a.pieces (fun n => ⟨a.term labels, [], n⟩) Token.EndsText :=
  fun s rest hs hahead hend => simpleTerm_reads_before role hfits s rest hs hahead fun _ => hend

end

end PointOfFocus.Query
