import PointOfFocus.Proofs.Query.Names

/-!
# Reading paths and predicates

The parser reads the phrase of a path or a predicate as the term that it stands for. The argument is by induction on
the bound of the parser: a path inside parentheses is shorter by at least two tokens and read with a bound that is one
less.
-/

namespace PointOfFocus.Query

open PointOfFocus.Rdf
open Phrase

variable {labels : Labels}

/-- The token neither repeats nor continues a path. -/
def Token.EndsPath (t : Token) : Prop :=
  t.isRepetition = false ∧ t.kind ≠ .symbol .slash ∧ t.kind ≠ .symbol .bar

/-! ### Lists with separators -/

/-- What may follow an item is in front of the others: a separator or, if there are none, what follows the list. -/
private theorem follow_of_others {β : Type} {separator : Symbol} {pieces : β → List Piece} {Follow : Token → Prop}
    (hseparator : ∀ t : Token, t.kind = .symbol separator → Follow t) {others : List β} {middle rest : List Token}
    (hothers : Ahead (others.flatMap fun b => symbol separator :: pieces b) middle rest) {last : Token}
    (hend : Follow (rest.headD last)) : Follow (middle.headD last) := by
  cases others with
  | nil =>
    obtain rfl : middle = rest := hothers
    exact hend
  | cons c others =>
    rw [List.flatMap_cons, ahead_append] at hothers
    obtain ⟨_, ⟨u, _, rfl, ⟨hu, -⟩, -⟩, -⟩ := hothers
    exact hseparator u hu

/-- The items of a list are read one by one, if each is read before a separator and before what follows the list. -/
private theorem separated_reads {α β : Type} {separator : Symbol} {item : Parser α} {pieces : β → List Piece}
    {value : β → α} {Follow : Token → Prop} (hseparator : ∀ t : Token, t.kind = .symbol separator → Follow t) :
    ∀ (others : List β) (bound : Nat), others.length < bound →
      (∀ b ∈ others, Reads labels item (pieces b) (fun n => ⟨value b, [], n⟩) Follow) →
      Reads labels (separated separator item bound) (others.flatMap fun b => symbol separator :: pieces b)
        (fun n => ⟨others.map value, [], n⟩) (fun t => Follow t ∧ t.kind ≠ .symbol separator) := by
  intro others
  induction others with
  | nil =>
    intro bound hbound _ s rest _ hahead hend
    obtain ⟨bound, rfl⟩ := Nat.exists_eq_succ_of_ne_zero (Nat.ne_of_gt hbound)
    obtain rfl : s.ahead = rest := hahead
    refine ⟨s, ?_, Moves.refl rfl, rfl⟩
    have hother : s.token.kind ≠ .symbol separator := hend.2
    simp only [separated, bind_apply, atSymbol_apply, hother, decide_false, Bool.false_eq_true, ↓reduceIte,
      pure_apply, List.map_nil]
  | cons b others ih =>
    intro bound hbound hitems s rest hs hahead hend
    obtain ⟨bound, rfl⟩ := Nat.exists_eq_succ_of_ne_zero (Nat.ne_of_gt (Nat.zero_lt_of_lt hbound))
    rw [List.flatMap_cons, ahead_append] at hahead
    obtain ⟨middle, ⟨t, later, hts, ⟨hkind, -⟩, hb⟩, hothers⟩ := hahead
    have hmarkers : markers (List.flatMap (fun b => symbol separator :: pieces b) (b :: others)) =
        markers (pieces b) + markers (others.flatMap fun b => symbol separator :: pieces b) := by
      simp
    rw [hmarkers] at hs ⊢
    have htake := Moves.take hts
    have hfollow : Follow (middle.headD s.last) := follow_of_others hseparator hothers hend.1
    obtain ⟨after, hitem, hmoves, hcurrent⟩ :=
      hitems b List.mem_cons_self _ middle (hs.after htake (by omega)) (htake.ahead ▸ hb) hfollow
    have hboth := htake.trans hmoves
    obtain ⟨last, hrest, hmoves', hcurrent'⟩ :=
      ih bound (Nat.lt_of_succ_lt_succ hbound) (fun c hc => hitems c (List.mem_cons_of_mem b hc)) after rest
        (hs.after hboth (by omega)) (hmoves.ahead ▸ hothers) (by rw [hboth.last]; exact hend)
    refine ⟨last, ?_, ?_, hcurrent'.trans hcurrent⟩
    · simp only [separated, bind_apply, atSymbol_apply, token_of_ahead hts, hkind, decide_true, ↓reduceIte,
        advance_apply, hitem, hrest, pure_apply, List.map_cons]
    · simpa [hmoves.next] using hboth.trans hmoves'

/-- A list that is not empty, of which a single item stands for itself. -/
theorem listed_reads {β : Type} {separator : Symbol} {item : Parser Term} {Follow : Token → Prop} {bound : Nat}
    {first : β} {others : List β} (pieces : β → List Piece) (value : β → Term) (join : List Term → Term)
    (hseparator : ∀ t : Token, t.kind = .symbol separator → Follow t) (hbound : others.length < bound)
    (hitems : ∀ b ∈ first :: others, Reads labels item (pieces b) (fun n => ⟨value b, [], n⟩) Follow) :
    Reads labels
      (do
        let x ← item
        match ← separated separator item bound with
        | [] => return x
        | rest => return join (x :: rest))
      (pieces first ++ others.flatMap fun b => symbol separator :: pieces b)
      (fun n => ⟨if others = [] then value first else join (value first :: others.map value), [], n⟩)
      (fun t => Follow t ∧ t.kind ≠ .symbol separator) := by
  intro s rest hs hahead hend
  rw [ahead_append] at hahead
  obtain ⟨middle, hfirst, hothers⟩ := hahead
  rw [markers_append] at hs ⊢
  have hfollow : Follow (middle.headD s.last) := follow_of_others hseparator hothers hend.1
  obtain ⟨after, hitem, hmoves, hcurrent⟩ :=
    hitems first List.mem_cons_self s middle (hs.after (Moves.refl rfl) (by omega)) hfirst hfollow
  obtain ⟨last, hrest, hmoves', hcurrent'⟩ :=
    separated_reads hseparator others bound hbound (fun c hc => hitems c (List.mem_cons_of_mem first hc)) after rest
      (hs.after hmoves (by omega)) (hmoves.ahead ▸ hothers) (by rw [hmoves.last]; exact hend)
  refine ⟨last, ?_, ?_, hcurrent'.trans hcurrent⟩
  · simp only [bind_apply, hitem, hrest]
    cases others <;> rfl
  · simpa [hmoves.next] using hmoves.trans hmoves'

/-! ### Steps -/

/-- A path that is read without its caret is read with it. -/
private theorem pathStep_reads_of_primary {inner : Parser Term} {core : List Piece} {t : Term} (inverse : Bool)
    (hcore : Reads labels (pathPrimary inner) core (fun n => ⟨t, [], n⟩) fun _ => True)
    (hfirst : ∃ p ps, core = p :: ps ∧ ∀ u, p.Matches u → u.kind ≠ .symbol .caret) :
    Reads labels (pathStep inner) (caretPieces inverse ++ core) (fun n => ⟨stepTerm inverse t, [], n⟩)
      (fun u => u.isRepetition = false) := by
  intro s rest hs hahead hend
  cases inverse with
  | false =>
    obtain ⟨after, hprimary, hmoves, hcurrent⟩ := hcore s rest hs hahead trivial
    refine ⟨after, ?_, hmoves, hcurrent⟩
    obtain ⟨p, ps, rfl, hp⟩ := hfirst
    obtain ⟨u, later, hts, hu, -⟩ := hahead
    have hrepetition : after.token.isRepetition = false := by
      rw [State.token, hmoves.ahead, hmoves.last]
      exact hend
    simp only [pathStep, bind_apply, atSymbol_apply, token_of_ahead hts, hp u hu, decide_false, Bool.false_eq_true,
      ↓reduceIte, hprimary, token_apply, hrepetition, pure_apply, stepTerm]
  | true =>
    obtain ⟨u, later, hts, ⟨hkind, -⟩, hlater⟩ := hahead
    have htake := Moves.take hts
    have hmarkers : markers (caretPieces true ++ core) = markers core := by simp [caretPieces]
    rw [hmarkers] at hs ⊢
    obtain ⟨after, hprimary, hmoves, hcurrent⟩ :=
      hcore _ rest (hs.after htake (by omega)) (htake.ahead ▸ hlater) trivial
    refine ⟨after, ?_, hmoves.of_ahead, hcurrent⟩
    have hrepetition : after.token.isRepetition = false := by
      rw [State.token, hmoves.ahead, hmoves.last]
      exact hend
    simp only [pathStep, bind_apply, atSymbol_apply, token_of_ahead hts, hkind, decide_true, ↓reduceIte, advance_apply,
      hprimary, token_apply, hrepetition, Bool.false_eq_true, pure_apply, stepTerm]

private theorem pathPrimary_name {inner : Parser Term} {name : Name} (h : name.Declared labels) :
    Reads labels (pathPrimary inner) [name.piece] (fun n => ⟨.iri (name.iri labels), [], n⟩) fun _ => True := by
  intro s rest hs hahead _
  obtain ⟨t, later, hts, ht, rfl⟩ := hahead
  have hmarkers : markers [name.piece] = 0 := by simp
  refine ⟨{ s with ahead := s.ahead.tail }, ?_, hmarkers ▸ Moves.take hts, rfl⟩
  cases name with
  | full iri =>
    obtain ⟨hkind, htext⟩ := ht
    simp only [pathPrimary, bind_apply, token_apply, token_of_ahead hts, hkind, advance_apply, pure_apply, htext,
      unwrap_brackets, Name.iri]
  | short label part =>
    obtain ⟨hkind, htext⟩ := ht
    have hname := resolveName_apply (s := { s with ahead := s.ahead.tail }) h hs.labels htext
    simp only [pathPrimary, bind_apply, token_apply, token_of_ahead hts, hkind, advance_apply, pure_apply, hname]

private theorem pathPrimary_type {inner : Parser Term} :
    Reads labels (pathPrimary inner) [.exact .word "a"] (fun n => ⟨.type, [], n⟩) fun _ => True := by
  intro s rest _ hahead _
  obtain ⟨t, later, hts, ⟨hkind, htext⟩, rfl⟩ := hahead
  refine ⟨{ s with ahead := s.ahead.tail }, ?_, Moves.take hts, rfl⟩
  simp only [pathPrimary, bind_apply, token_apply, token_of_ahead hts, hkind, htext, decide_true, Bool.and_self,
    ↓reduceIte, advance_apply, pure_apply, Term.type]

private theorem pathPrimary_group {inner : Parser Term} {ps : List Piece} {t : Term}
    (h : Reads labels inner ps (fun n => ⟨t, [], n⟩) Token.EndsPath) :
    Reads labels (pathPrimary inner) (symbol .openParen :: ps ++ [symbol .closeParen]) (fun n => ⟨t, [], n⟩)
      fun _ => True := by
  intro s rest hs hahead _
  rw [ahead_append] at hahead
  obtain ⟨middle, ⟨u, later, hts, ⟨hkind, -⟩, hps⟩, v, last, rfl, ⟨hclose, -⟩, rfl⟩ := hahead
  have htake := Moves.take hts
  have hmarkers : markers (symbol .openParen :: ps ++ [symbol .closeParen]) = markers ps := by simp
  rw [hmarkers] at hs ⊢
  have hend : Token.EndsPath v := by simp [Token.EndsPath, Token.isRepetition, hclose]
  obtain ⟨after, hinner, hmoves, hcurrent⟩ :=
    h _ (v :: last) (hs.after htake (by omega)) (htake.ahead ▸ hps) hend
  have hv : after.token = v := token_of_ahead hmoves.ahead
  refine ⟨{ after with ahead := after.ahead.tail }, ?_, hmoves.of_ahead.then_take, hcurrent⟩
  simp only [pathPrimary, bind_apply, token_apply, token_of_ahead hts, hkind, advance_apply, hinner,
    expectSymbol_apply (s := after) (x := .closeParen) (hv ▸ hclose), pure_apply]

/-- What is assumed of the way to read a path in parentheses. -/
def ReadsPaths (labels : Labels) (inner : Parser Term) (bound : Nat) : Prop :=
  ∀ p : Path, p.Fits labels → p.pieces.length < bound →
    Reads labels inner p.pieces (fun n => ⟨pathTerm (p.terms labels), [], n⟩) Token.EndsPath

/-- A step of a path is read as its term, if the paths in its parentheses are. -/
theorem pathStep_reads {inner : Parser Term} {bound : Nat} (hinner : ReadsPaths labels inner bound) {step : Step}
    (hfits : step.Fits labels) (hbound : step.pieces.length ≤ bound) :
    Reads labels (pathStep inner) step.pieces (fun n => ⟨step.term labels, [], n⟩)
      (fun u => u.isRepetition = false) := by
  cases step with
  | name inverse name =>
    rw [Step.Fits] at hfits
    rw [Step.pieces, Step.term]
    refine pathStep_reads_of_primary inverse (pathPrimary_name hfits) ⟨_, _, rfl, fun u hu => ?_⟩
    cases name <;> simp [hu.1]
  | type inverse =>
    rw [Step.pieces, Step.term]
    exact pathStep_reads_of_primary inverse pathPrimary_type ⟨_, _, rfl, fun u hu => by simp [hu.1]⟩
  | group inverse p =>
    rw [Step.Fits] at hfits
    rw [Step.pieces, List.append_assoc]
    rw [Step.term]
    refine pathStep_reads_of_primary inverse (pathPrimary_group (hinner p hfits ?_)) ⟨_, _, rfl, fun u hu => ?_⟩
    · simp only [Step.pieces, List.length_append, List.length_cons] at hbound
      omega
    · simp [hu.1]

/-! ### Sequences and alternatives -/

namespace Phrase

/-- The first step. -/
def Steps.first : Steps → Step
  | .last step => step
  | .andThen step _ => step

/-- The steps after the first. -/
def Steps.others : Steps → List Step
  | .last _ => []
  | .andThen _ rest => rest.first :: rest.others

/-- The first alternative. -/
def Path.first : Path → Steps
  | .last steps => steps
  | .or steps _ => steps

/-- The alternatives after the first. -/
def Path.others : Path → List Steps
  | .last _ => []
  | .or _ rest => rest.first :: rest.others

private theorem Steps.pieces_eq : ∀ steps : Steps,
    steps.pieces = steps.first.pieces ++ steps.others.flatMap fun step => symbol .slash :: step.pieces
  | .last step => by simp [Steps.pieces, first, others]
  | .andThen step rest => by simp [Steps.pieces, first, others, Steps.pieces_eq rest]

private theorem Path.pieces_eq : ∀ path : Path,
    path.pieces = path.first.pieces ++ path.others.flatMap fun steps => symbol .bar :: steps.pieces
  | .last steps => by simp [Path.pieces, first, others]
  | .or steps rest => by simp [Path.pieces, first, others, Path.pieces_eq rest]

private theorem Steps.terms_eq : ∀ steps : Steps,
    steps.terms labels = steps.first.term labels :: steps.others.map (·.term labels)
  | .last step => by simp [Steps.terms, first, others]
  | .andThen step rest => by simp [Steps.terms, first, others, Steps.terms_eq rest]

private theorem Path.terms_eq : ∀ path : Path,
    path.terms labels = stepsTerm (path.first.terms labels) :: path.others.map fun steps => stepsTerm (steps.terms labels)
  | .last steps => by simp [Path.terms, first, others]
  | .or steps rest => by simp [Path.terms, first, others, Path.terms_eq rest]

private theorem Steps.fits_iff :
    ∀ steps : Steps, steps.Fits labels ↔ ∀ step ∈ steps.first :: steps.others, step.Fits labels
  | .last step => by simp [Steps.Fits, first, others]
  | .andThen step rest => by simp [Steps.Fits, first, others, Steps.fits_iff rest]

private theorem Path.fits_iff : ∀ path : Path, path.Fits labels ↔ ∀ steps ∈ path.first :: path.others, steps.Fits labels
  | .last steps => by simp [Path.Fits, first, others]
  | .or steps rest => by simp [Path.Fits, first, others, Path.fits_iff rest]

end Phrase

/-- Every item of a list uses at least one token, and so does every separator. -/
theorem length_listed {β : Type} (pieces : β → List Piece) (separator : Piece) (first : β) (others : List β) :
    (∀ b ∈ first :: others,
      (pieces b).length ≤ (pieces first ++ others.flatMap fun b => separator :: pieces b).length) ∧
    others.length + (pieces first).length ≤ (pieces first ++ others.flatMap fun b => separator :: pieces b).length := by
  induction others with
  | nil => simp
  | cons c others ih =>
    obtain ⟨hall, hlength⟩ := ih
    simp only [List.length_append, List.flatMap_cons, List.length_cons, List.mem_cons, forall_eq_or_imp] at *
    refine ⟨⟨by omega, by omega, fun b hb => ?_⟩, by omega⟩
    have := hall.2 b hb
    omega

private theorem Step.pieces_pos (step : Step) : 0 < step.pieces.length := by
  cases step <;> simp only [Step.pieces, List.length_append, List.length_cons] <;> omega

private theorem Steps.pieces_pos (steps : Steps) : 0 < steps.pieces.length := by
  rw [Steps.pieces_eq, List.length_append]
  have := Step.pieces_pos steps.first
  omega

private theorem pathSequence_reads {inner : Parser Term} {bound : Nat} (hinner : ReadsPaths labels inner bound)
    {steps : Steps} (hfits : steps.Fits labels) (hbound : steps.pieces.length ≤ bound) :
    Reads labels (pathSequence bound inner) steps.pieces (fun n => ⟨stepsTerm (steps.terms labels), [], n⟩)
      (fun t => t.isRepetition = false ∧ t.kind ≠ .symbol .slash) := by
  rw [Steps.fits_iff] at hfits
  rw [Steps.pieces_eq] at hbound
  obtain ⟨hall, hlength⟩ := length_listed Step.pieces (symbol .slash) steps.first steps.others
  have hfirst := Step.pieces_pos steps.first
  have hseparator (t : Token) (ht : t.kind = .symbol .slash) : t.isRepetition = false := by
    simp [Token.isRepetition, ht]
  have h := listed_reads Step.pieces (·.term labels) .sequenceOf hseparator (show steps.others.length < bound by omega)
    (fun step hstep => pathStep_reads hinner (hfits step hstep) (Nat.le_trans (hall step hstep) hbound))
  rw [Steps.pieces_eq, Steps.terms_eq]
  cases hothers : steps.others <;> rw [hothers] at h <;> exact h

/-- A path is read as the term that it stands for. -/
theorem path_reads (bound : Nat) : ReadsPaths labels (path bound) bound := by
  induction bound with
  | zero => exact fun p _ hbound => absurd hbound (Nat.not_lt_zero _)
  | succ bound ih =>
    intro p hfits hbound
    rw [Path.fits_iff] at hfits
    rw [Path.pieces_eq] at hbound
    obtain ⟨hall, hlength⟩ := length_listed Steps.pieces (symbol .bar) p.first p.others
    have hfirst := Steps.pieces_pos p.first
    have hseparator (t : Token) (ht : t.kind = .symbol .bar) : t.isRepetition = false ∧ t.kind ≠ .symbol .slash := by
      simp [Token.isRepetition, ht]
    have h := listed_reads Steps.pieces (fun steps => stepsTerm (steps.terms labels)) .alternativeOf hseparator
      (show p.others.length < bound by omega) fun steps hsteps =>
        pathSequence_reads ih (hfits steps hsteps) (by have := hall steps hsteps; omega)
    rw [Path.pieces_eq, Path.terms_eq]
    intro s rest hs hahead hend
    obtain ⟨after, hpath, hmoves⟩ := h s rest hs hahead ⟨⟨hend.1, hend.2.1⟩, hend.2.2⟩
    refine ⟨after, ?_, hmoves⟩
    rw [path]
    cases hothers : p.others <;> rw [hothers] at hpath <;> exact hpath

/-! ### Predicates -/

/-- The first token of the pieces, of which there is one, has the property. -/
def StartsWith (Start : Token → Prop) (pieces : List Piece) : Prop :=
  ∃ p ps, pieces = p :: ps ∧ ∀ t, p.Matches t → Start t

/-- How pieces start does not depend on what follows them. -/
theorem StartsWith.append {Start : Token → Prop} {ps : List Piece} (h : StartsWith Start ps) (qs : List Piece) :
    StartsWith Start (ps ++ qs) := by
  obtain ⟨p, ps, rfl, hp⟩ := h
  exact ⟨p, ps ++ qs, rfl, hp⟩

/-- Tokens for the pieces start as the pieces do. -/
theorem StartsWith.head {Start : Token → Prop} {ps : List Piece} (h : StartsWith Start ps) {ts rest : List Token}
    (hahead : Ahead ps ts rest) (last : Token) : Start (ts.headD last) := by
  obtain ⟨p, ps, rfl, hp⟩ := h
  obtain ⟨t, later, rfl, ht, -⟩ := hahead
  exact hp t ht

theorem StartsWith.mono {Start Start' : Token → Prop} {ps : List Piece} (h : StartsWith Start ps)
    (himp : ∀ t, Start t → Start' t) : StartsWith Start' ps := by
  obtain ⟨p, ps, rfl, hp⟩ := h
  exact ⟨p, ps, rfl, fun t ht => himp t (hp t ht)⟩

/-- The token starts a path. -/
def Token.StartsPath (t : Token) : Prop :=
  t.startsVerb = true ∧ t.kind ≠ .var ∧ ∀ hint, t.kind ≠ .focus hint

/-- A step of a path starts with a token that can start a path. -/
theorem Step.startsPath (step : Step) : StartsWith Token.StartsPath step.pieces := by
  have hcaret (ps : List Piece) : StartsWith Token.StartsPath (symbol .caret :: ps) :=
    ⟨_, _, rfl, fun t ht => by simp [Token.StartsPath, Token.startsVerb, ht.1]⟩
  cases step with
  | name inverse name =>
    cases inverse with
    | true => exact hcaret _
    | false => refine ⟨_, _, rfl, fun t ht => ?_⟩; cases name <;> simp [Token.StartsPath, Token.startsVerb, ht.1]
  | type inverse =>
    cases inverse with
    | true => exact hcaret _
    | false => exact ⟨_, _, rfl, fun t ht => by simp [Token.StartsPath, Token.startsVerb, ht.1, ht.2]⟩
  | group inverse path =>
    cases inverse with
    | true => exact hcaret _
    | false => exact ⟨_, _, rfl, fun t ht => by simp [Token.StartsPath, Token.startsVerb, ht.1]⟩

private theorem Path.startsPath (path : Path) : StartsWith Token.StartsPath path.pieces := by
  rw [Path.pieces_eq, Steps.pieces_eq]
  exact ((Step.startsPath path.first.first).append _).append _

/-- A verb starts with a token that can start one. -/
theorem Verb.starts (v : Verb) : StartsWith (·.startsVerb = true) v.pieces := by
  cases v with
  | focus hint => exact ⟨_, _, rfl, fun t ht => by simp [Token.startsVerb, ht.1]⟩
  | var mark x => exact ⟨_, _, rfl, fun t ht => by simp [Token.startsVerb, ht.1]⟩
  | along path => exact (Path.startsPath path).mono fun t ht => ht.1

/-- A predicate is read as the term that it stands for. -/
theorem verb_reads {bound : Nat} {v : Verb} (hfits : v.Fits labels) (hbound : v.pieces.length < bound) :
    Reads labels (verb bound) v.pieces (fun n => ⟨v.term labels, [], n⟩) Token.EndsPath := by
  intro s rest hs hahead hend
  cases v with
  | focus hint =>
    obtain ⟨t, later, hts, ⟨hkind, -⟩, rfl⟩ := hahead
    obtain ⟨after, hafter, hmoves, hcurrent⟩ := pointOfFocus_apply .predicate hfits (fun _ _ => rfl) hs hts hkind
    refine ⟨after, ?_, hmoves, hcurrent⟩
    simp only [verb, bind_apply, token_apply, token_of_ahead hts, hkind, hafter, Verb.term]
  | var mark x =>
    obtain ⟨t, later, hts, ⟨hkind, htext⟩, rfl⟩ := hahead
    refine ⟨_, ?_, Moves.take hts, rfl⟩
    simp only [verb, bind_apply, token_apply, token_of_ahead hts, hkind, advance_apply, pure_apply, htext,
      dropFirst_mark, Verb.term]
  | along path =>
    obtain ⟨-, hvar, hfocus⟩ := (Path.startsPath path).head hahead s.last
    obtain ⟨after, hpath, hmoves⟩ := path_reads bound path hfits hbound s rest hs hahead hend
    refine ⟨after, ?_, hmoves⟩
    simp only [verb, bind_apply, token_apply]
    cases hkind : s.token.kind with
    | focus hint => exact absurd hkind (hfocus hint)
    | var => exact absurd hkind hvar
    | _ => exact hpath

end PointOfFocus.Query
