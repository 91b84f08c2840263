import PointOfFocus.Proofs.Query.LiteralWriting
import PointOfFocus.Proofs.Scope.Preparation

/-!
# Terms that are read back

A term of a query is written as a phrase that stands for it: nodes as single terms (`node_written`), and predicates as
variables or paths (`verb_written`). A sequence or an alternative inside a path is written in parentheses, which keeps the
paths as they are, since flat paths have no sequence of sequences and no alternative of alternatives.
-/

namespace PointOfFocus.Query

open PointOfFocus.Rdf
open PointOfFocus.Text
open Phrase

/-! ### Terms of a query can be written -/

/-- An IRI without forbidden characters is written in angle brackets. -/
theorem IsIri.renderIri {iri : String} (h : IsIri iri) : renderIri iri = .ok ("<" ++ iri ++ ">") := by
  have hforbidden : ∀ c ∈ forbiddenInIri, isIriChar c = false := by decide
  have hwritable : isWritableIri iri = true := by
    refine List.all_eq_true.2 fun c hc => ?_
    rw [Bool.not_eq_true', ← Bool.not_eq_true, List.contains_iff_mem]
    intro hmem
    have hfalse := hforbidden c hmem
    rw [h c hc] at hfalse
    cases hfalse
  rw [Rdf.renderIri, if_pos hwritable]

theorem renderParts_of_forall {ts : List Term} (h : ∀ t ∈ ts, ∃ text, t.render = .ok text) :
    ∃ texts, Term.renderParts ts = .ok texts := by
  induction ts with
  | nil => exact ⟨[], by rw [Term.renderParts]⟩
  | cons t ts ih =>
    obtain ⟨⟨text, ht⟩, hts⟩ := List.forall_mem_cons.1 h
    obtain ⟨texts, htexts⟩ := ih hts
    exact ⟨_, by rw [Term.renderParts, ht, htexts]; rfl⟩

/-- A path that was read can be written. -/
theorem PathShape.writable {t : Term} (h : PathShape t) : ∃ text, t.render = .ok text := by
  induction h with
  | iri h => exact ⟨_, by rw [Term.render, h.renderIri]⟩
  | sequence _ _ _ ih =>
    obtain ⟨texts, htexts⟩ := renderParts_of_forall ih
    exact ⟨_, by rw [Term.render, htexts]; rfl⟩
  | alternative _ _ _ ih =>
    obtain ⟨texts, htexts⟩ := renderParts_of_forall ih
    exact ⟨_, by rw [Term.render, htexts]; rfl⟩
  | inverse _ ih =>
    obtain ⟨text, htext⟩ := ih
    exact ⟨_, by rw [Term.render, htext]; rfl⟩

/-- A subject or object that was read can be written. -/
theorem NodeShape.writable {t : Term} (h : NodeShape t) : ∃ text, t.render = .ok text := by
  cases t with
  | var x => exact ⟨_, by rw [Term.render]⟩
  | blank label => exact ⟨_, by rw [Term.render]⟩
  | literal l => exact ⟨_, by rw [Term.render]⟩
  | iri iri => exact ⟨_, by rw [Term.render, IsIri.renderIri h]⟩
  | sequence | alternative | inverse => exact h.elim

/-- A predicate that was read can be written. -/
theorem VerbShape.writable {t : Term} (h : VerbShape t) : ∃ text, t.render = .ok text := by
  rcases h with ⟨x, rfl, _⟩ | h
  · exact ⟨_, by rw [Term.render]⟩
  · exact h.writable

/-- The terms of a pattern that was read can be written. -/
theorem PatternShape.writable {p : Pattern} (h : PatternShape p) : p.Writable :=
  ⟨h.subject.writable, h.predicate.writable, h.object.writable⟩

/-! ### Single tokens -/

/-- The text of an IRI is cut into its one token, whatever follows. -/
theorem writes_iri {iri : String} (h : IsIri iri) : Writes Anything ("<" ++ iri ++ ">") [(Name.full iri).piece] :=
  writes_token (by simp) (fun rest _ => lexeme?_iri h rest) (by simp) fun _ _ => ⟨rfl, rfl⟩

theorem writes_var {x : String} (h : IsVarName x) {p : Piece}
    (hp : ∀ start stop, p.Matches ⟨.var, "?" ++ x, start, stop⟩) : Writes Delimited ("?" ++ x) [p] :=
  writes_token (by simp) (fun _ hrest => lexeme?_var h hrest) (by simp) hp

/-- The text of an escaped and quoted literal is cut into its one token, unless a further quotation mark follows. -/
theorem writes_string (text : String) {p : Piece}
    (hp : ∀ start stop, p.Matches ⟨.string, String.ofList ('"' :: escape text.toList ++ ['"']), start, stop⟩) :
    Writes Unquoted (String.ofList ('"' :: escape text.toList ++ ['"'])) [p] := by
  refine writes_token (by simp) (fun rest hrest => ?_) (by simp) hp
  rw [String.toList_ofList]
  exact lexeme?_string text.toList hrest

/-- A symbol that starts no longer token is written as it stands. -/
theorem writes_symbol (x : Symbol) (h : x ∈ plainSymbols) {p : Piece}
    (hp : ∀ start stop, p.Matches ⟨.symbol x, x.text, start, stop⟩) : Writes Anything x.text [p] := by
  have hne : ∀ y ∈ plainSymbols, y.text.toList ≠ [] := by decide
  exact writes_token (hne x h) (fun rest _ => lexeme?_plain h rest) (by simp) hp

/-! ### Nodes -/

/-- A subject or an object whose text leaves no quote over is written as a single term. The term stands for it, unless it
is a literal that building it from its parts changes. -/
theorem node_written {t : Term} (h : NodeShape t) (hleaves : ∀ l, t = .literal l → ¬ LeavesQuote l.lexical)
    (labels : Labels) : ∃ text, t.render = .ok text ∧ ∃ a : Atom, a.Fits labels ∧ Writes Delimited text a.pieces ∧
      ((∀ l, t = .literal l → l.IsSteady ∧ l.qualifier ≠ .datatype "") → a.term labels = t) := by
  cases t with
  | var x => exact ⟨_, by rw [Term.render], .var '?' x, trivial, writes_var h fun _ _ => ⟨rfl, rfl⟩, fun _ => rfl⟩
  | blank label =>
    refine ⟨_, by rw [Term.render], .blank label, trivial, ?_, fun _ => rfl⟩
    exact writes_token (by simp) (fun _ hrest => lexeme?_blank h hrest) (by simp) fun _ _ => ⟨rfl, rfl⟩
  | literal l =>
    obtain ⟨written, word, hquoted, hwrites, hsame⟩ := literal_written h (hleaves l rfl)
    refine ⟨_, by rw [Term.render], .text written word (suffixOf l.qualifier), ⟨hquoted, declared_suffix _ _⟩, hwrites,
      fun hliteral => ?_⟩
    obtain ⟨hsteady, hdatatype⟩ := hliteral l rfl
    exact congrArg Term.literal (hsame hdatatype hsteady.rebuilt labels)
  | iri iri =>
    exact ⟨_, by rw [Term.render, IsIri.renderIri h], .iri (.full iri), trivial, (writes_iri h).mono fun _ _ => trivial,
      fun _ => rfl⟩
  | sequence | alternative | inverse => exact h.elim

/-! ### Paths -/

mutual

/-- Whether the path has an inverse right inside an inverse. -/
def hasDoubleInverse : Term → Bool
  | .inverse (.inverse _) => true
  | .inverse t => hasDoubleInverse t
  | .sequence ts => anyDoubleInverse ts
  | .alternative ts => anyDoubleInverse ts
  | _ => false

/-- Whether one of the paths has an inverse right inside an inverse. -/
def anyDoubleInverse : List Term → Bool
  | [] => false
  | t :: ts => hasDoubleInverse t || anyDoubleInverse ts

end

private theorem hasDoubleInverse_of_mem {ts : List Term} (h : anyDoubleInverse ts = false) :
    ∀ t ∈ ts, hasDoubleInverse t = false := by
  induction ts with
  | nil => simp
  | cons t ts ih =>
    rw [anyDoubleInverse, Bool.or_eq_false_iff] at h
    exact List.forall_mem_cons.2 ⟨h.1, ih h.2⟩

/-- The text is that of a path which stands for the term. -/
def PathWritten (labels : Labels) (text : String) (t : Term) : Prop :=
  ∃ path : Path, pathTerm (path.terms labels) = t ∧ path.Fits labels ∧ Writes Anything text path.pieces

/-- The text is that of a step which stands for the term, and no bar stands at its start. -/
def StepWritten (labels : Labels) (text : String) (t : Term) : Prop :=
  (∃ step : Step, step.term labels = t ∧ step.Fits labels ∧ Writes Anything text step.pieces) ∧
    ∃ c cs, text.toList = c :: cs ∧ c ≠ '|'

section

variable {labels : Labels} {text : String} {t : Term}

private theorem StepWritten.path (h : StepWritten labels text t) : PathWritten labels text t := by
  obtain ⟨⟨step, hterm, hfits, hwrites⟩, _⟩ := h
  exact ⟨.last (.last step), by simp [Path.terms, Steps.terms, hterm, pathTerm, stepsTerm],
    by simpa [Path.Fits, Steps.Fits] using hfits, by simpa [Path.pieces, Steps.pieces] using hwrites⟩

theorem writes_caret : Writes (fun rest => rest.head? ≠ some '^') "^" [symbol .caret] :=
  writes_token (by decide) (fun _ hrest => lexeme?_caret hrest) (by simp) fun _ _ => ⟨rfl, rfl⟩

theorem writes_bar : Writes (fun rest => rest.head? ≠ some '|') "|" [symbol .bar] :=
  writes_token (by decide) (fun _ hrest => lexeme?_bar hrest) (by simp) fun _ _ => ⟨rfl, rfl⟩

theorem writes_slash : Writes Anything "/" [symbol .slash] := writes_symbol .slash (by decide) fun _ _ => ⟨rfl, rfl⟩

/-- A step forward along an IRI, or backward. -/
theorem name_written {iri : String} (h : IsIri iri) (inverse : Bool) :
    StepWritten labels ((if inverse then "^" else "") ++ ("<" ++ iri ++ ">")) (stepTerm inverse (.iri iri)) := by
  refine ⟨⟨.name inverse (.full iri), by rw [Step.term]; rfl, by rw [Step.Fits]; trivial, ?_⟩, ?_⟩
  · rw [Step.pieces]
    cases inverse with
    | false => simpa [caretPieces] using writes_iri h
    | true => exact writes_caret.append (writes_iri h) fun _ _ => by simp
  · cases inverse with
    | false => exact ⟨'<', iri.toList ++ ['>'], by simp, by decide⟩
    | true => exact ⟨'^', '<' :: (iri.toList ++ ['>']), by simp, by decide⟩

/-- A step forward along a path in parentheses, or backward. -/
private theorem group_written (h : PathWritten labels text t) (inverse : Bool) :
    StepWritten labels ((if inverse then "^" else "") ++ ("(" ++ text ++ ")")) (stepTerm inverse t) := by
  obtain ⟨path, hterm, hfits, hwrites⟩ := h
  have hopen : Writes Anything "(" [symbol .openParen] := writes_symbol .openParen (by decide) fun _ _ => ⟨rfl, rfl⟩
  have hclose : Writes Anything ")" [symbol .closeParen] := writes_symbol .closeParen (by decide) fun _ _ => ⟨rfl, rfl⟩
  have hgroup := (hopen.append hwrites fun _ _ => trivial).append hclose fun _ _ => trivial
  refine ⟨⟨.group inverse path, by rw [Step.term, hterm], by rwa [Step.Fits], ?_⟩, ?_⟩
  · rw [Step.pieces]
    cases inverse with
    | false => simpa [caretPieces] using hgroup
    | true =>
      have hall := writes_caret.append hgroup fun _ _ => by simp
      simpa [caretPieces] using hall
  · cases inverse with
    | false => exact ⟨'(', text.toList ++ [')'], by simp, by decide⟩
    | true => exact ⟨'^', '(' :: (text.toList ++ [')']), by simp, by decide⟩

/-- A path of several parts is put in parentheses, with a caret before it or without one. -/
private theorem compound_written (hcompound : t.isCompound = true) (h : PathWritten labels text t) (inverse : Bool) :
    StepWritten labels ((if inverse then "^" else "") ++ t.parenthesize text) (stepTerm inverse t) := by
  rw [Term.parenthesize, if_pos hcompound]
  exact group_written h inverse

private theorem PathWritten.step (h : PathWritten labels text t) (hcompound : t.isCompound = true) :
    StepWritten labels (t.parenthesize text) t := by
  have hstep := compound_written hcompound h false
  rwa [if_neg (by decide), String.empty_append] at hstep

/-- The steps of a sequence are written with slashes between them. -/
private theorem steps_written {ts : List Term} (hne : ts ≠ [])
    (h : ∀ u ∈ ts, ∃ text, u.render = .ok text ∧ StepWritten labels (u.parenthesize text) u) :
    ∃ texts, Term.renderParts ts = .ok texts ∧ ∃ steps : Steps, steps.terms labels = ts ∧ steps.Fits labels ∧
      Writes Anything ("/".intercalate texts) steps.pieces ∧ texts ≠ [] := by
  induction ts with
  | nil => exact absurd rfl hne
  | cons u us ih =>
    obtain ⟨⟨text, hrender, ⟨step, hterm, hfits, hwrites⟩, _⟩, hus⟩ := List.forall_mem_cons.1 h
    cases us with
    | nil =>
      refine ⟨[u.parenthesize text], by simp [Term.renderParts, hrender, bind, Except.bind, pure, Except.pure], .last step,
        by rw [Steps.terms, hterm], by rwa [Steps.Fits], ?_, by simp⟩
      rw [String.intercalate_singleton, Steps.pieces]
      exact hwrites
    | cons v vs =>
      obtain ⟨texts, hparts, steps, hterms, hstepsFit, hstepsWrite, htexts⟩ := ih (by simp) hus
      refine ⟨u.parenthesize text :: texts, ?_, .andThen step steps, ?_, ?_, ?_, by simp⟩
      · rw [Term.renderParts, hrender, hparts]
        rfl
      · rw [Steps.terms, hterm, hterms]
      · rw [Steps.Fits]
        exact ⟨hfits, hstepsFit⟩
      · rw [String.intercalate_cons_of_ne_nil htexts, Steps.pieces]
        have hall := (hwrites.append writes_slash fun _ _ => trivial).append hstepsWrite fun _ _ => trivial
        simpa using hall

/-- The branches of an alternative are written with bars between them. -/
private theorem branches_written {ts : List Term} (hne : ts ≠ [])
    (h : ∀ u ∈ ts, ∃ text, u.render = .ok text ∧ StepWritten labels (u.parenthesize text) u) :
    ∃ texts, Term.renderParts ts = .ok texts ∧ ∃ path : Path, path.terms labels = ts ∧ path.Fits labels ∧
      Writes Anything ("|".intercalate texts) path.pieces ∧ texts ≠ [] ∧
      ∃ c cs, ("|".intercalate texts).toList = c :: cs ∧ c ≠ '|' := by
  induction ts with
  | nil => exact absurd rfl hne
  | cons u us ih =>
    obtain ⟨⟨text, hrender, ⟨step, hterm, hfits, hwrites⟩, c, cs, hstart, hc⟩, hus⟩ := List.forall_mem_cons.1 h
    cases us with
    | nil =>
      refine ⟨[u.parenthesize text], by simp [Term.renderParts, hrender, bind, Except.bind, pure, Except.pure],
        .last (.last step), by simp [Path.terms, Steps.terms, hterm, stepsTerm], by simpa [Path.Fits, Steps.Fits] using hfits,
        ?_, by simp, c, cs, by rw [String.intercalate_singleton, hstart], hc⟩
      rw [String.intercalate_singleton, Path.pieces, Steps.pieces]
      exact hwrites
    | cons v vs =>
      obtain ⟨texts, hparts, path, hterms, hpathFit, hpathWrite, htexts, d, ds, hnext, hd⟩ := ih (by simp) hus
      refine ⟨u.parenthesize text :: texts, ?_, .or (.last step) path, ?_, ?_, ?_, by simp, c, ?_⟩
      · rw [Term.renderParts, hrender, hparts]
        rfl
      · rw [Path.terms, Steps.terms, hterm, hterms, stepsTerm]
      · rw [Path.Fits, Steps.Fits]
        exact ⟨hfits, hpathFit⟩
      · rw [String.intercalate_cons_of_ne_nil htexts, Path.pieces, Steps.pieces]
        have hbar := writes_bar.append hpathWrite fun rest _ => by simp [hnext, hd]
        have hall := hwrites.append hbar fun _ _ => trivial
        simpa [String.append_assoc] using hall
      · exact ⟨cs ++ ("|" ++ "|".intercalate texts).toList, by
          rw [String.intercalate_cons_of_ne_nil htexts, String.append_assoc, String.toList_append, hstart]
          rfl, hc⟩

end

private theorem flatMap_steps {ts : List Term} (h : ∀ t ∈ ts, isSequence t = false) : ts.flatMap Term.steps = ts := by
  induction ts with
  | nil => rfl
  | cons t ts ih =>
    obtain ⟨ht, hts⟩ := List.forall_mem_cons.1 h
    have hsteps : t.steps = [t] := by cases t <;> first | rfl | cases ht
    rw [List.flatMap_cons, ih hts, hsteps, List.singleton_append]

private theorem flatMap_branches {ts : List Term} (h : ∀ t ∈ ts, isAlternative t = false) :
    ts.flatMap Term.branches = ts := by
  induction ts with
  | nil => rfl
  | cons t ts ih =>
    obtain ⟨ht, hts⟩ := List.forall_mem_cons.1 h
    have hbranches : t.branches = [t] := by cases t <;> first | rfl | cases ht
    rw [List.flatMap_cons, ih hts, hbranches, List.singleton_append]

theorem exists_cons_cons {ts : List Term} (h : 2 ≤ ts.length) : ∃ u v us, ts = u :: v :: us := by
  cases ts with
  | nil => cases h
  | cons u ts =>
    cases ts with
    | nil => exact absurd h (by simp)
    | cons v us => exact ⟨u, v, us, rfl⟩

/-- A path is read back, alone and as a part of a path. -/
theorem path_written {t : Term} (h : PathShape t) (hinverse : hasDoubleInverse t = false) (labels : Labels) :
    ∃ text, t.render = .ok text ∧ StepWritten labels (t.parenthesize text) t ∧ PathWritten labels text t := by
  induction h with
  | iri h =>
    have hstep : StepWritten labels _ _ := name_written h false
    rw [if_neg (by decide), String.empty_append] at hstep
    exact ⟨_, by rw [Term.render, h.renderIri], hstep, hstep.path⟩
  | @sequence ts hlength _ hflat ih =>
    rw [hasDoubleInverse] at hinverse
    have hparts : ∀ u ∈ ts, ∃ text, u.render = .ok text ∧ StepWritten labels (u.parenthesize text) u := by
      intro u hu
      obtain ⟨text, hrender, hstep, _⟩ := ih u hu (hasDoubleInverse_of_mem hinverse u hu)
      exact ⟨text, hrender, hstep⟩
    obtain ⟨texts, hrender, steps, hterms, hfits, hwrites, _⟩ :=
      steps_written (List.ne_nil_of_length_pos (by omega)) hparts
    have hpath : PathWritten labels ("/".intercalate texts) (.sequence ts) := by
      refine ⟨.last steps, ?_, by rwa [Path.Fits], by rwa [Path.pieces]⟩
      obtain ⟨u, v, us, rfl⟩ := exists_cons_cons hlength
      rw [Path.terms, hterms]
      show Term.sequenceOf _ = _
      rw [Term.sequenceOf, flatMap_steps hflat]
    exact ⟨_, by rw [Term.render, hrender]; rfl, hpath.step (decide_eq_true hlength), hpath⟩
  | @alternative ts hlength _ hflat ih =>
    rw [hasDoubleInverse] at hinverse
    have hparts : ∀ u ∈ ts, ∃ text, u.render = .ok text ∧ StepWritten labels (u.parenthesize text) u := by
      intro u hu
      obtain ⟨text, hrender, hstep, _⟩ := ih u hu (hasDoubleInverse_of_mem hinverse u hu)
      exact ⟨text, hrender, hstep⟩
    obtain ⟨texts, hrender, path, hterms, hfits, hwrites, _⟩ :=
      branches_written (List.ne_nil_of_length_pos (by omega)) hparts
    have hpath : PathWritten labels ("|".intercalate texts) (.alternative ts) := by
      refine ⟨path, ?_, hfits, hwrites⟩
      obtain ⟨u, v, us, rfl⟩ := exists_cons_cons hlength
      rw [hterms]
      show Term.alternativeOf _ = _
      rw [Term.alternativeOf, flatMap_branches hflat]
    exact ⟨_, by rw [Term.render, hrender]; rfl, hpath.step (decide_eq_true hlength), hpath⟩
  | @inverse u h ih =>
    have hrender : ∀ {text}, u.render = .ok text → (Term.inverse u).render = .ok ("^" ++ u.parenthesize text) := by
      intro text htext
      rw [Term.render, htext]
      rfl
    have hstep : ∃ text, u.render = .ok text ∧ StepWritten labels ("^" ++ u.parenthesize text) (.inverse u) := by
      cases h with
      | iri h => exact ⟨_, by rw [Term.render, h.renderIri], name_written h true⟩
      | @sequence ts hlength _ _ =>
        obtain ⟨text, htext, _, hpath⟩ := ih (by simpa [hasDoubleInverse] using hinverse)
        have hcompound : (Term.sequence ts).isCompound = true := decide_eq_true hlength
        exact ⟨text, htext, compound_written hcompound hpath true⟩
      | @alternative ts hlength _ _ =>
        obtain ⟨text, htext, _, hpath⟩ := ih (by simpa [hasDoubleInverse] using hinverse)
        have hcompound : (Term.alternative ts).isCompound = true := decide_eq_true hlength
        exact ⟨text, htext, compound_written hcompound hpath true⟩
      | inverse _ =>
        rw [hasDoubleInverse] at hinverse
        cases hinverse
    obtain ⟨text, htext, hstep⟩ := hstep
    exact ⟨_, hrender htext, hstep, hstep.path⟩

/-! ### Predicates -/

/-- A predicate is written as one that stands for it. -/
theorem verb_written {t : Term} (h : VerbShape t) (hinverse : hasDoubleInverse t = false) (labels : Labels) :
    ∃ text, t.renderPredicate = .ok text ∧ ∃ v : Verb, v.term labels = t ∧ v.Fits labels ∧
      Writes Delimited text v.pieces := by
  rw [Term.renderPredicate]
  split
  next htype =>
    have ht : t = .type := by
      cases t with
      | iri iri => exact congrArg Term.iri (of_decide_eq_true htype)
      | _ => cases htype
    have hword : Writes Delimited "a" [.exact .word "a"] :=
      writes_token (by decide) (fun _ hrest => lexeme?_word (by decide) (by decide) hrest) (by simp) fun _ _ => ⟨rfl, rfl⟩
    refine ⟨"a", rfl, .along (.last (.last (.type false))), ?_, ?_, ?_⟩
    · simp [Verb.term, Path.terms, Steps.terms, Step.term, pathTerm, stepsTerm, stepTerm, ht]
    · simp [Verb.Fits, Path.Fits, Steps.Fits, Step.Fits]
    · simpa [Verb.pieces, Path.pieces, Steps.pieces, Step.pieces, caretPieces] using hword
  · rcases h with ⟨x, rfl, hx⟩ | h
    · exact ⟨_, by rw [Term.render], .var '?' x, rfl, trivial, writes_var hx fun _ _ => ⟨rfl, rfl⟩⟩
    · obtain ⟨text, hrender, _, path, hterm, hfits, hwrites⟩ := path_written h hinverse labels
      exact ⟨text, hrender, .along path, hterm, hfits, hwrites.mono fun _ _ => trivial⟩

end PointOfFocus.Query
