import PointOfFocus.Proofs.Query.Phrase
import PointOfFocus.Proofs.Query.Triples
import PointOfFocus.Proofs.Text.Letter

/-!
# Reading groups

The parser skips expressions and blocks of values whose brackets match, and reads a group with the patterns that it
stands for. It stops where a filter tests for the absence of a group: after the words for such a test it looks for
the second of them once more. Apart from this `group_settles` is by induction on the bound of the parser, as for nodes.
-/

namespace PointOfFocus.Query

open PointOfFocus.Rdf
open PointOfFocus.Text (upper upper_of_toLower)
open Phrase

variable {labels : Labels}

/-! ### Skipping brackets -/

mutual

/-- Brackets that match are skipped inside a bracket. -/
private theorem afterBrackets_item {opening : Token} {awaited : Symbol} {outer : List Symbol} {rest : List Token}
    (hawaited : awaited.isClosing = true) : ∀ {item : Skipped} {ts : List Token}, item.Fits → Ahead item.pieces ts rest →
      afterBrackets opening (awaited :: outer) ts = afterBrackets opening (awaited :: outer) rest
  | .token kind text, ts, hfits, hahead => by
    rw [Skipped.Fits] at hfits
    rw [Skipped.pieces] at hahead
    obtain ⟨t, later, rfl, ⟨ht, -⟩, rfl⟩ := hahead
    cases kind with
    | symbol x =>
      have hno : isBracket x = false := hfits x rfl
      rw [isBracket, Bool.or_eq_false_iff] at hno
      have hopening : x.closing? = none := by simpa using hno.1
      have hother : x ≠ awaited := by
        rintro rfl
        simp [hawaited] at hno
      simp only [afterBrackets, ht, hopening, hother, ↓reduceIte, hno.2, Bool.false_eq_true]
    | _ => simp only [afterBrackets, ht]
  | .bracket shape items, ts, hfits, hahead => by
    rw [Skipped.Fits] at hfits
    rw [Skipped.pieces, List.cons_append] at hahead
    obtain ⟨t, later, rfl, ⟨ht, -⟩, hlater⟩ := hahead
    rw [ahead_append] at hlater
    obtain ⟨middle, hitems, u, _, rfl, ⟨hu, -⟩, rfl⟩ := hlater
    have hopening : shape.opening.closing? = some shape.closing := by cases shape <;> rfl
    have hclosing : shape.closing.closing? = none := by cases shape <;> rfl
    simp only [afterBrackets, ht, hopening]
    rw [afterBrackets_items (by cases shape <;> rfl) hfits hitems]
    simp only [afterBrackets, hu, hclosing, ↓reduceIte]

/-- Items whose brackets match are skipped inside a bracket. -/
private theorem afterBrackets_items {opening : Token} {awaited : Symbol} {outer : List Symbol} {rest : List Token}
    (hawaited : awaited.isClosing = true) :
    ∀ {items : List Skipped} {ts : List Token}, skippedFit items → Ahead (skippedPieces items) ts rest →
      afterBrackets opening (awaited :: outer) ts = afterBrackets opening (awaited :: outer) rest
  | [], ts, _, hahead => by
    rw [skippedPieces] at hahead
    rw [show ts = rest from hahead]
  | item :: items, ts, hfits, hahead => by
    rw [skippedFit] at hfits
    rw [skippedPieces, ahead_append] at hahead
    obtain ⟨middle, hitem, hitems⟩ := hahead
    rw [afterBrackets_item hawaited hfits.1 hitem, afterBrackets_items hawaited hfits.2 hitems]

end

/-- Brackets that match are skipped as a whole. -/
theorem skipBrackets_apply {shape : Bracket} {inside : List Skipped} {s : State} {rest : List Token}
    (hfits : skippedFit inside) (hahead : Ahead (bracketPieces shape inside) s.ahead rest) :
    skipBrackets s = (.ok (), { s with ahead := rest }) := by
  rw [bracketPieces, Skipped.pieces, List.cons_append] at hahead
  obtain ⟨t, later, hts, ⟨ht, -⟩, hlater⟩ := hahead
  rw [ahead_append] at hlater
  obtain ⟨middle, hinside, u, last, rfl, ⟨hu, -⟩, rfl⟩ := hlater
  have hopening : t.closing?.toList = [shape.closing] := by cases shape <;> simp [Token.closing?, ht] <;> rfl
  have hclosing : shape.closing.closing? = none := by cases shape <;> rfl
  have hskip : afterBrackets t [shape.closing] later = .ok last := by
    rw [afterBrackets_items (by cases shape <;> rfl) hfits hinside]
    simp only [afterBrackets, hu, hclosing, ↓reduceIte]
  simp only [skipBrackets, bind_apply, advance_apply, token_of_ahead hts, hopening, get_apply, hts, List.tail_cons,
    hskip, modify_apply]

mutual

private theorem markers_skipped : ∀ item : Skipped, markers item.pieces = 0
  | .token kind text => by
    rw [Skipped.pieces]
    rfl
  | .bracket shape items => by
    rw [Skipped.pieces]
    simp [skippedSymbol, Piece.isMarker, markers_skippedItems items]

private theorem markers_skippedItems : ∀ items : List Skipped, markers (skippedPieces items) = 0
  | [] => by
    rw [skippedPieces]
    rfl
  | item :: items => by
    rw [skippedPieces]
    simp [markers_skipped item, markers_skippedItems items]

end

/-- What is skipped stands for no pattern. -/
def skippedReading (n : Nat) : Reading Unit := ⟨(), [], n⟩

private theorem skipBrackets_settles {shape : Bracket} {inside : List Skipped} (hfits : skippedFit inside) :
    Settles labels skipBrackets (bracketPieces shape inside) skippedReading (fun _ => True) false := by
  intro s rest _ hahead _
  rw [bracketPieces, markers_skipped]
  exact ⟨_, skipBrackets_apply hfits hahead, Moves.to s rest⟩

private theorem skipBracket_settles {inside : List Skipped} (shape : Bracket) (cause : Cause)
    (hfits : skippedFit inside) :
    Settles labels (skipBracket shape.opening cause) (bracketPieces shape inside) skippedReading (fun _ => True)
      false := by
  refine (skipBrackets_settles hfits).congr (fun _ h => h) fun s rest hahead => ?_
  rw [bracketPieces, Skipped.pieces, List.cons_append] at hahead
  obtain ⟨t, later, hts, ⟨ht, -⟩, -⟩ := hahead
  simp only [skipBracket, bind_apply, atSymbol_apply, token_of_ahead hts, ht, decide_true, ↓reduceIte]

/-! ### Keywords -/

theorem isKeyword_of_matches {word : String} {t : Token} (h : (Piece.keyword word).Matches t) (words : List String) :
    t.isKeyword words = words.contains word := by
  simp [Token.isKeyword, h.1, h.2]

/-! ### Constraints -/

private theorem constraint_settles {c : Constraint} (hfits : c.Fits) :
    Settles labels constraint c.pieces skippedReading (fun _ => True) (Element.filter c).hasAbsence := by
  cases c with
  | expression inside =>
    simp only [Element.hasAbsence]
    refine (skipBrackets_settles hfits).congr (fun _ h => h) fun s rest hahead => ?_
    rw [bracketPieces, Skipped.pieces, List.cons_append] at hahead
    obtain ⟨t, later, hts, ⟨ht, -⟩, -⟩ := hahead
    simp only [constraint, bind_apply, atSymbol_apply, token_of_ahead hts, ht, Bracket.opening, decide_true,
      ↓reduceIte]
  | call name inside =>
    simp only [Element.hasAbsence]
    have hinside : skippedFit inside := by
      cases name with
      | word text => exact hfits.1
      | iri name => exact hfits
    refine (skipBrackets_settles hinside).cons (by rcases name with _ | _ | _ <;> rfl) ?_
    intro s t later rest hts ht hlater
    rw [bracketPieces, Skipped.pieces, List.cons_append] at hlater
    obtain ⟨u, _, rfl, ⟨hu, -⟩, -⟩ := hlater
    obtain ⟨hkind, hname, hnot, hexists⟩ : t.kind ≠ .symbol .openParen ∧ t.isFunctionName = true ∧
        t.isKeyword ["NOT"] = false ∧ t.isKeyword ["EXISTS"] = false := by
      rcases name with text | _ | _
      · obtain ⟨hkind, rfl⟩ := ht
        have := hfits.2
        simp [Token.isFunctionName, Token.isKeyword, hkind, this]
      all_goals simp [Token.isFunctionName, Token.isKeyword, ht.1]
    have hnext : s.next.kind = .symbol .openParen := by
      rw [State.next, hts]
      exact hu
    simp only [constraint, bind_apply, atSymbol_apply, atKeyword_apply, token_apply, get_apply, token_of_ahead hts,
      hkind, hnot, hexists, hname, hnext, decide_false, decide_true, Bool.and_self, Bool.false_eq_true, ↓reduceIte,
      advance_apply, hts, List.tail_cons]
  | existence negated inside =>
    cases negated with
    | false =>
      simp only [Element.hasAbsence]
      refine (skipBracket_settles .brace .missingGroup hfits).cons rfl ?_
      intro s t later rest hts ht _
      have hparen : t.kind ≠ .symbol .openParen := by simp [ht.1]
      have hnot : t.isKeyword ["NOT"] = false := by simp [isKeyword_of_matches ht]
      have hexists : t.isKeyword ["EXISTS"] = true := by simp [isKeyword_of_matches ht]
      simp only [constraint, bind_apply, atSymbol_apply, atKeyword_apply, token_of_ahead hts, hparen, hnot, hexists,
        decide_false, Bool.false_eq_true, ↓reduceIte, advance_apply, hts, List.tail_cons, Bracket.opening]
    | true =>
      -- both words are taken, and what follows is neither the second word nor a function
      simp only [Element.hasAbsence]
      intro s rest _ hahead _
      rw [Constraint.pieces, bracketPieces, Skipped.pieces] at hahead
      obtain ⟨t, _, hts, ht, u, _, rfl, hu, v, after, rfl, ⟨hv, -⟩, -⟩ := hahead
      have hparen : t.kind ≠ .symbol .openParen := by simp [ht.1]
      have hnot : t.isKeyword ["NOT"] = true := by simp [isKeyword_of_matches ht]
      have hexists : ({ s with ahead := u :: v :: after } : State).token.isKeyword ["EXISTS"] = true :=
        by simp [State.token, isKeyword_of_matches hu]
      have hbrace : v.kind = .symbol .openBrace := hv
      obtain ⟨hsecond, hname⟩ : v.isKeyword ["EXISTS"] = false ∧ v.isFunctionName = false := by
        simp [Token.isKeyword, Token.isFunctionName, hbrace]
      refine ⟨v.start, { s with ahead := v :: after }, ?_⟩
      simp only [constraint, bind_apply, atSymbol_apply, atKeyword_apply, token_of_ahead hts, hparen, hnot,
        decide_false, Bool.false_eq_true, ↓reduceIte, advance_apply, hts, List.tail_cons, expectKeyword_apply hexists]
      simp only [State.token, List.headD_cons, hsecond, bind_apply, token_apply, get_apply, hname, Bool.false_and,
        Bool.false_eq_true, ↓reduceIte, fail_apply]

/-! ### Elements -/

private theorem values_settles {columns : Columns} {rows : List Skipped} (hcolumns : columns.Fits)
    (hrows : skippedFit rows) :
    Settles labels values (columns.pieces ++ bracketPieces .brace rows) skippedReading (fun _ => True) false := by
  have hlast : Settles labels _ _ _ _ _ := skipBracket_settles .brace .missingValues hrows
  cases columns with
  | one mark x =>
    refine hlast.cons rfl fun s t later rest hts ht _ => ?_
    simp only [values, bind_apply, token_apply, token_of_ahead hts, ht.1, ↓reduceIte, advance_apply, hts,
      List.tail_cons]
    rfl
  | several inside =>
    have hfirst : Settles labels _ _ _ _ _ := skipBracket_settles .paren .missingVariables hcolumns
    refine (hfirst.seq hlast fun _ _ _ _ _ => trivial).congr (fun _ h => h) fun s rest hahead => ?_
    rw [bracketPieces, Skipped.pieces, List.cons_append, List.cons_append] at hahead
    obtain ⟨t, later, hts, ⟨ht, -⟩, -⟩ := hahead
    have hvar : t.kind ≠ .var := by simp [ht]
    simp only [values, bind_apply, token_apply, token_of_ahead hts, hvar, ↓reduceIte, Bracket.opening]

/-- What is assumed of the way to read a group. -/
def ReadsGroups (labels : Labels) (group : Parser Unit) (bound : Nat) : Prop :=
  ∀ g : Group, g.Fits labels → g.pieces.length + 2 ≤ bound →
    Settles labels group g.pieces (g.reading labels) (fun _ => True) g.hasAbsence

/-- A group starts with a brace. -/
theorem Group.starts (g : Group) : StartsWith (·.kind = .symbol .openBrace) g.pieces := by
  cases g with
  | braces elements =>
    rw [Group.pieces]
    exact startsWith_exact fun t ht => ht

/-- The token is the name of a graph or a service. -/
def Token.IsGraphName (t : Token) : Prop := t.kind = .var ∨ t.kind = .iri ∨ t.kind = .prefixedName

private theorem GraphName.starts (name : GraphName) : StartsWith Token.IsGraphName name.atom.pieces := by
  rcases name with _ | _ | _ <;> exact startsWith_exact fun t ht => by simp [Token.IsGraphName, ht]

private theorem namedGroup_apply {group : Parser Unit} {s : State} (keyword : String) (h : s.token.IsGraphName) :
    namedGroup group keyword s = (do let _ ← simpleTerm .subject; group) s := by
  have hword : s.token.isKeyword ["SILENT"] = false := by
    refine isKeyword_of_kind ?_ _
    rcases h with h | h | h <;> simp [h]
  by_cases hkeyword : keyword = "SERVICE" <;> rcases h with h | h | h <;>
    simp only [namedGroup, bind_apply, hkeyword, ↓reduceIte, skipKeyword_apply, hword, Bool.false_eq_true, token_apply, h]

private theorem namedGroup_silent {group : Parser Unit} {s : State} {t : Token} {later : List Token}
    (hts : s.ahead = t :: later) (ht : (Piece.keyword "SILENT").Matches t)
    (h : ({ s with ahead := later } : State).token.IsGraphName) :
    namedGroup group "SERVICE" s = (do let _ ← simpleTerm .subject; group) { s with ahead := later } := by
  have hsilent : t.isKeyword ["SILENT"] = true := by simp [isKeyword_of_matches ht]
  rcases h with h | h | h <;>
    simp only [namedGroup, bind_apply, ↓reduceIte, skipKeyword_apply, token_of_ahead hts, hsilent, hts, List.tail_cons,
      token_apply, h]

/-- A group with the name of its place is read as the group. -/
private theorem named_settles {group : Parser Unit} {name : GraphName} {ps : List Piece} {reading : Nat → Reading Unit}
    {absence : Bool} (hname : name.atom.Fits labels) (hgroup : Settles labels group ps reading (fun _ => True) absence)
    (hps : StartsWith (·.kind = .symbol .openBrace) ps) :
    Settles labels (do let _ ← simpleTerm .subject; group) (name.atom.pieces ++ ps) reading (fun _ => True) absence :=
  (simpleTerm_reads .subject hname).then_settles hgroup fun _ _ last hahead _ =>
    endsText_of_symbol (hps.head hahead last)

/-- The keyword that the element starts with. -/
def Phrase.Element.word? : Element → Option String
  | .joined keyword _ => some keyword.word
  | .placed .graph _ _ => some "GRAPH"
  | .placed (.service _) _ _ => some "SERVICE"
  | .filter _ => some "FILTER"
  | .binding _ => some "BIND"
  | .values _ _ => some "VALUES"
  | _ => none

private theorem element_apply {group : Parser Unit} {s : State} {t : Token} {later : List Token} {word : String}
    (hts : s.ahead = t :: later) (ht : (Piece.keyword word).Matches t) :
    element group s =
      (if word = "OPTIONAL" || word = "MINUS" then group
      else if word = "GRAPH" || word = "SERVICE" then namedGroup group word
      else if word = "FILTER" then constraint
      else if word = "BIND" then skipBracket .openParen .missingBinding
      else values) { s with ahead := later } := by
  simp only [element, bind_apply, advance_apply, token_of_ahead hts, ht.2, hts, List.tail_cons]

/-- An element that starts with a keyword is read. -/
private theorem element_settles {group : Parser Unit} {bound : Nat} (hgroup : ReadsGroups labels group bound)
    {e : Element}
    {word : String} (hword : e.word? = some word) (hfits : e.Fits labels) (hbound : e.pieces.length + 2 ≤ bound) :
    Settles labels (element group) e.pieces (e.reading labels) (fun _ => True) e.hasAbsence := by
  cases e with
  | dot | block b | union first others => cases hword
  | joined keyword g =>
    simp only [Element.pieces, Element.reading, Element.hasAbsence, Element.Fits, List.length_cons] at *
    refine (hgroup g hfits (by omega)).cons rfl fun s t later rest hts ht _ => ?_
    rw [element_apply hts ht]
    cases keyword <;> rfl
  | placed place name g =>
    simp only [Element.pieces, Element.reading, Element.hasAbsence, Element.Fits, List.length_append,
      List.append_assoc] at *
    have hnamed := named_settles hfits.1 (hgroup g hfits.2 (by omega)) (Group.starts g)
    have hstarts := (GraphName.starts name).append g.pieces
    cases place with
    | graph =>
      refine hnamed.cons rfl fun s t later rest hts ht hlater => ?_
      rw [element_apply hts ht]
      exact namedGroup_apply "GRAPH" (hstarts.head hlater s.last)
    | service silent =>
      cases silent with
      | false =>
        refine hnamed.cons rfl fun s t later rest hts ht hlater => ?_
        rw [element_apply hts ht]
        exact namedGroup_apply "SERVICE" (hstarts.head hlater s.last)
      | true =>
        -- one more word stands before the name of the service
        have hsilent : Settles labels (namedGroup group "SERVICE") _ _ _ _ :=
          hnamed.cons rfl fun s t later rest hts ht hlater => namedGroup_silent hts ht (hstarts.head hlater s.last)
        refine hsilent.cons rfl fun s t later rest hts ht _ => ?_
        rw [element_apply hts ht]
        rfl
  | filter c =>
    simp only [Element.pieces, Element.reading, Element.Fits] at *
    refine (constraint_settles hfits).cons rfl fun s t later rest hts ht _ => ?_
    rw [element_apply hts ht]
    rfl
  | binding inside =>
    simp only [Element.pieces, Element.reading, Element.hasAbsence, Element.Fits] at *
    refine (skipBracket_settles .paren .missingBinding hfits).cons rfl fun s t later rest hts ht _ => ?_
    rw [element_apply hts ht]
    rfl
  | values columns rows =>
    simp only [Element.pieces, Element.reading, Element.hasAbsence, Element.Fits, List.cons_append] at *
    refine (values_settles hfits.1 hfits.2).cons rfl fun s t later rest hts ht _ => ?_
    rw [element_apply hts ht]
    rfl

private theorem Element.starts_keyword {e : Element} {word : String} (hword : e.word? = some word) :
    word ∈ elementKeywords ∧ StartsWith (Piece.keyword word).Matches e.pieces := by
  cases e with
  | dot | block b | union first others => cases hword
  | joined keyword g =>
    cases hword
    rw [Element.pieces]
    exact ⟨by cases keyword <;> simp [Joining.word, elementKeywords], _, _, rfl, fun _ h => h⟩
  | placed place name g =>
    rw [Element.pieces]
    cases place <;> cases hword <;> exact ⟨by simp [elementKeywords], _, _, rfl, fun _ h => h⟩
  | filter c | binding inside | values columns rows =>
    cases hword
    rw [Element.pieces]
    exact ⟨by simp [elementKeywords], _, _, rfl, fun _ h => h⟩

/-- The groups of a union are read up to a token that is not the keyword. -/
private theorem unions_settles {group : Parser Unit} {depth : Nat} (hgroup : ReadsGroups labels group depth)
    (gs : List Group) : ∀ bound : Nat, gs.length < bound → groupsFit labels gs → (unionPieces gs).length + 2 ≤ depth →
      Settles labels (unions group bound) (unionPieces gs) (groupReading labels gs)
        (·.isKeyword ["UNION"] = false) (anyGroupAbsence gs) := by
  induction gs with
  | nil =>
    intro bound hbound _ _ s rest _ hahead hend
    obtain ⟨bound, rfl⟩ := Nat.exists_eq_succ_of_ne_zero (Nat.ne_of_gt hbound)
    simp only [unionPieces, anyGroupAbsence, groupReading] at hahead ⊢
    obtain rfl : s.ahead = rest := hahead
    have hother : s.token.isKeyword ["UNION"] = false := hend
    refine ⟨s, ?_, Moves.refl rfl⟩
    simp only [unions, bind_apply, atKeyword_apply, hother, Bool.false_eq_true, ↓reduceIte, pure_apply]
  | cons g gs ih =>
    intro bound hbound hfits hdepth
    obtain ⟨bound, rfl⟩ := Nat.exists_eq_succ_of_ne_zero (Nat.ne_of_gt (Nat.zero_lt_of_lt hbound))
    simp only [unionPieces, anyGroupAbsence, groupReading, groupsFit, List.length_cons, List.length_append,
      List.cons_append] at *
    have hrest := ih bound (by omega) hfits.2 (by omega)
    refine ((hgroup g hfits.1 (by omega)).seq hrest fun _ _ _ _ _ => trivial).cons rfl ?_
    intro s t later rest hts ht _
    have hunion : t.isKeyword ["UNION"] = true := by simp [isKeyword_of_matches ht]
    simp only [unions, bind_apply, atKeyword_apply, token_of_ahead hts, hunion, ↓reduceIte, advance_apply, hts,
      List.tail_cons]

/-! ### Groups -/

/-- A truth value is written in letters of which no keyword is made. -/
theorem isKeyword_of_isTruth {t : Token} (h : t.isTruth = true) {words : List String} (htrue : "TRUE" ∉ words)
    (hfalse : "FALSE" ∉ words) : t.isKeyword words = false := by
  simp only [Token.isTruth, Bool.and_eq_true, List.contains_iff_mem, List.mem_cons, List.not_mem_nil, or_false] at h
  obtain ⟨-, htext⟩ := h
  have hupper : upper t.text = "TRUE" ∨ upper t.text = "FALSE" := by
    rcases htext with htext | htext
    · exact Or.inl (upper_of_toLower htext (by decide))
    · exact Or.inr (upper_of_toLower htext (by decide))
  rcases hupper with hupper | hupper <;> simp [Token.isKeyword, hupper, htrue, hfalse]

private theorem Token.StartsNode.isKeyword {t : Token} (h : t.StartsNode) {words : List String} (htrue : "TRUE" ∉ words)
    (hfalse : "FALSE" ∉ words) : t.isKeyword words = false := by
  by_cases hkind : t.kind = .word
  · have htruth := h.object
    simp only [Token.startsObject, hkind] at htruth
    exact isKeyword_of_isTruth htruth htrue hfalse
  · exact isKeyword_of_kind hkind words

/-- A block of triples ends before the token. -/
structure Token.FollowsBlock (t : Token) : Prop where
  properties : t.EndsProperties
  triples : t.endsTriples = true

private theorem followsBlock_of_symbol {t : Token} {x : Symbol} (h : t.kind = .symbol x)
    (hx : x ∈ [Symbol.dot, .openBrace, .closeBrace]) : t.FollowsBlock where
  properties := endsProperties_of_symbol h (List.mem_cons_of_mem _ hx)
  triples := by
    simp only [List.mem_cons, List.not_mem_nil, or_false] at hx
    rcases hx with rfl | rfl | rfl <;> simp [Token.endsTriples, h]

private theorem followsBlock_of_keyword {t : Token} {word : String} (h : (Piece.keyword word).Matches t)
    (hword : word ∈ elementKeywords) : t.FollowsBlock := by
  have hkeyword : t.isKeyword elementKeywords = true := by
    rw [isKeyword_of_matches h]
    exact List.contains_iff_mem.2 hword
  have htruth : t.isTruth = false := by
    by_contra hne
    rw [isKeyword_of_isTruth (Bool.not_eq_false _ ▸ hne) (by decide) (by decide)] at hkeyword
    cases hkeyword
  have ha : t.text ≠ "a" := by
    intro ha
    have hupper : upper t.text = "A" := by
      rw [ha]
      exact upper_of_toLower (show "a".toList.map Char.toLower = ['a'] by decide) (by decide)
    rw [h.2] at hupper
    rw [hupper] at hword
    exact absurd hword (by decide)
  have hkind := h.1
  exact ⟨⟨⟨by simp [Token.EndsPath, Token.isRepetition, hkind], by simp [Token.startsObject, hkind, htruth],
    by simp [Token.EndsText, hkind], by simp [hkind]⟩, by simp [hkind], by simp [Token.startsVerb, hkind, ha]⟩,
    by simp [Token.endsTriples, hkind, hkeyword]⟩

theorem Block.startsNode (b : Block) : StartsWith Token.StartsNode b.pieces := (Node.startsNode b.subject).append _

/-- A token that can stand after a block of triples starts each element that is not one. -/
private theorem Element.followsBlock {e : Element} (h : e.isBlock = false) :
    StartsWith Token.FollowsBlock e.pieces := by
  cases hword : e.word? with
  | some word =>
    obtain ⟨hmem, hstarts⟩ := Element.starts_keyword hword
    exact hstarts.mono fun t ht => followsBlock_of_keyword ht hmem
  | none =>
    cases e with
    | dot =>
      rw [Element.pieces]
      exact startsWith_exact fun t ht => followsBlock_of_symbol ht (by simp)
    | block b => cases h
    | union first others =>
      rw [Element.pieces]
      exact ((Group.starts first).append _).mono fun t ht => followsBlock_of_symbol ht (by simp)
    | placed place name g => cases place <;> cases hword
    | joined keyword g | filter c | binding inside | values columns rows => cases hword

private theorem Element.pos (e : Element) : 0 < e.pieces.length := by
  cases h : e.isBlock with
  | false => exact (Element.followsBlock h).pos
  | true =>
    cases e <;> cases h
    rw [Element.pieces]
    exact (Block.startsNode _).pos

/-- No element starts with a keyword other than those of elements. -/
private theorem Element.not_keyword (e : Element) {other : String}
    (hother : other ∉ "TRUE" :: "FALSE" :: elementKeywords) : StartsWith (·.isKeyword [other] = false) e.pieces := by
  simp only [List.mem_cons, not_or] at hother
  cases hword : e.word? with
  | some word =>
    obtain ⟨hmem, hstarts⟩ := Element.starts_keyword hword
    refine hstarts.mono fun t ht => ?_
    have hne : word ≠ other := fun h => hother.2.2 (h ▸ hmem)
    simp [isKeyword_of_matches ht, hne]
  | none =>
    cases e with
    | dot =>
      rw [Element.pieces]
      exact startsWith_exact fun t ht => isKeyword_of_kind (by simp [ht]) _
    | block b =>
      rw [Element.pieces]
      refine (Block.startsNode b).mono fun t ht => ht.isKeyword ?_ ?_ <;> simp [Ne.symm hother.1, Ne.symm hother.2.1]
    | union first others =>
      rw [Element.pieces]
      exact ((Group.starts first).append _).mono fun t ht => isKeyword_of_kind (by simp [ht]) _
    | placed place name g => cases place <;> cases hword
    | joined keyword g | filter c | binding inside | values columns rows => cases hword

/-- What a property of all tokens that start elements, and of the closing brace, says of the rest of a group. -/
private theorem elementPieces_head {Start : Token → Prop} {es : List Element} {ts rest : List Token} {last : Token}
    (hes : ∀ e ∈ es.head?, StartsWith Start e.pieces) (hclose : ∀ t : Token, t.kind = .symbol .closeBrace → Start t)
    (hahead : Ahead (elementPieces es ++ [symbol .closeBrace]) ts rest) : Start (ts.headD last) := by
  cases es with
  | nil =>
    rw [elementPieces] at hahead
    obtain ⟨t, later, rfl, ⟨ht, -⟩, -⟩ := hahead
    exact hclose t ht
  | cons e es =>
    rw [elementPieces, List.append_assoc] at hahead
    exact ((hes e rfl).append _).head hahead last

private theorem elements_keyword {group : Parser Unit} {opening : Token} {bound : Nat} {s : State}
    (h : s.token.isKeyword elementKeywords = true) :
    elements group opening (bound + 1) s = (do element group; elements group opening bound) s := by
  have hkind : s.token.kind = .word := by
    simp only [Token.isKeyword, Bool.and_eq_true, decide_eq_true_eq] at h
    exact h.1
  simp only [elements, bind_apply, token_apply, hkind, h, ↓reduceIte]

/-- A block of triples in a group is read, and then the elements after it. -/
theorem elements_block {group : Parser Unit} {opening : Token} {bound : Nat} {s : State}
    (h : s.token.StartsNode) :
    elements group opening (bound + 1) s =
      (do
        triples bound
        if !(← token).endsTriples then fail (.expected "'.' or '\x7d'" (← token))
        elements group opening bound) s := by
  have hkeyword : s.token.isKeyword elementKeywords = false := h.isKeyword (by decide) (by decide)
  have hclose : s.token.kind ≠ .symbol .closeBrace := h.ne fun _ _ _ => rfl
  have heof : s.token.kind ≠ .eof := h.ne fun _ _ _ => rfl
  have hdot : s.token.kind ≠ .symbol .dot := h.ne fun _ _ _ => rfl
  have hopen : s.token.kind ≠ .symbol .openBrace := h.ne fun _ _ _ => rfl
  simp only [elements, bind_apply, token_apply]
  cases hkind : s.token.kind with
  | eof => exact absurd hkind heof
  | symbol x =>
    cases x with
    | closeBrace => exact absurd hkind hclose
    | dot => exact absurd hkind hdot
    | openBrace => exact absurd hkind hopen
    | _ => simp only [hkeyword, Bool.false_eq_true, ↓reduceIte, bind_apply, token_apply]
  | _ => simp only [hkeyword, Bool.false_eq_true, ↓reduceIte, bind_apply, token_apply]

/-- A block of triples is read if what follows may follow it. -/
private theorem checkedTriples_settles {bound : Nat} {b : Block} (hfits : b.Fits labels)
    (hbound : b.pieces.length + 1 < bound) : Settles labels
      (do
        triples bound
        if !(← token).endsTriples then fail (.expected "'.' or '\x7d'" (← token)))
      b.pieces (b.reading labels) Token.FollowsBlock false := by
  intro s rest hs hahead hend
  obtain ⟨after, hok, hmoves⟩ := triples_settles hfits hbound s rest hs hahead hend.properties
  refine ⟨after, ?_, hmoves⟩
  have hends : after.token.endsTriples = true := by
    rw [State.token, hmoves.ahead, hmoves.last]
    exact hend.triples
  simp only [bind_apply, hok, token_apply, hends, Bool.not_true, Bool.false_eq_true, ↓reduceIte, pure_apply]

private theorem length_le_unionPieces (gs : List Group) : gs.length ≤ (unionPieces gs).length := by
  induction gs with
  | nil => simp
  | cons g gs ih =>
    simp only [unionPieces, List.length_append, List.length_cons]
    omega

/-- The elements of a group are read up to its closing brace. -/
private theorem elements_settles {group : Parser Unit} {depth : Nat} (hgroup : ReadsGroups labels group depth)
    (opening : Token) (es : List Element) : ∀ bound : Nat, (elementPieces es).length + 3 ≤ bound →
      (elementPieces es).length + 2 ≤ depth → elementsFit labels es →
      Settles labels (elements group opening bound) (elementPieces es ++ [symbol .closeBrace])
        (elementReading labels es) (fun _ => True) (anyAbsence es) := by
  induction es with
  | nil =>
    intro bound hbound _ _ s rest _ hahead _
    obtain ⟨bound, rfl⟩ := Nat.exists_eq_succ_of_ne_zero (show bound ≠ 0 by omega)
    simp only [elementPieces, anyAbsence, elementReading] at hahead ⊢
    obtain ⟨t, later, hts, ⟨ht, -⟩, rfl⟩ := hahead
    refine ⟨{ s with ahead := s.ahead.tail }, ?_, Moves.take hts⟩
    simp only [elements, bind_apply, token_apply, token_of_ahead hts, ht, advance_apply, pure_apply]
  | cons e es ih =>
    intro bound hbound hdepth hfits
    obtain ⟨bound, rfl⟩ := Nat.exists_eq_succ_of_ne_zero (show bound ≠ 0 by omega)
    simp only [elementPieces, anyAbsence, elementReading, elementsFit, List.length_append, List.append_assoc] at *
    have hpos := Element.pos e
    have hrest := ih bound (by omega) (by omega) hfits.2.2
    cases hword : e.word? with
    | some word =>
      obtain ⟨hmem, hstarts⟩ := Element.starts_keyword hword
      have hfirst := element_settles hgroup hword hfits.1 (by omega)
      refine (hfirst.seq hrest fun _ _ _ _ _ => trivial).congr (fun _ h => h) fun s rest hahead => ?_
      have hkeyword : s.token.isKeyword elementKeywords = true := by
        rw [State.token, isKeyword_of_matches ((hstarts.append _).head hahead s.last)]
        exact List.contains_iff_mem.2 hmem
      exact elements_keyword hkeyword
    | none =>
      cases e with
      | dot =>
        simp only [Element.pieces, Element.reading, Element.hasAbsence, Bool.false_or, List.nil_append] at *
        refine hrest.cons rfl fun s t later rest hts ht _ => ?_
        simp only [elements, bind_apply, token_apply, token_of_ahead hts, ht.1, advance_apply, hts, List.tail_cons]
      | block b =>
        simp only [Element.pieces, Element.reading, Element.hasAbsence, Element.Fits] at *
        have hfirst := checkedTriples_settles (show b.Fits labels from hfits.1) (show b.pieces.length + 1 < bound by omega)
        -- a block ends before a dot, the closing brace or the next element, whichever follows
        have hnext (ts rest : List Token) (last : Token)
            (hahead : Ahead (elementPieces es ++ [symbol .closeBrace]) ts rest) : Token.FollowsBlock (ts.headD last) :=
          elementPieces_head (fun e he => Element.followsBlock (hfits.2.1 rfl e he))
            (fun t ht => followsBlock_of_symbol ht (by simp)) hahead
        refine (hfirst.seq hrest fun ts rest last hahead _ => hnext ts rest last hahead).congr (fun _ h => h)
          fun s rest hahead => ?_
        rw [elements_block (((Block.startsNode b).append _).head hahead s.last)]
        simp only [bind_apply]
        rcases triples bound s with ⟨_ | _, middle⟩
        · rfl
        · simp only [token_apply]
          cases middle.token.endsTriples <;> rfl
      | union first others =>
        simp only [Element.pieces, Element.reading, Element.hasAbsence, Element.Fits, List.length_append] at *
        have hone := hgroup first hfits.1.1 (by omega)
        have hlength := length_le_unionPieces others
        have hmore := unions_settles hgroup others bound (by omega) hfits.1.2 (by omega)
        have hnext (ts rest : List Token) (last : Token)
            (hahead : Ahead (elementPieces es ++ [symbol .closeBrace]) ts rest) :
            Token.isKeyword (ts.headD last) ["UNION"] = false :=
          elementPieces_head (fun e _ => Element.not_keyword e (by decide))
            (fun t ht => isKeyword_of_kind (by simp [ht]) _) hahead
        refine ((hone.seq hmore fun _ _ _ _ _ => trivial).seq hrest
          fun ts rest last hahead _ => hnext ts rest last hahead).congr (fun _ h => h) fun s rest hahead => ?_
        rw [List.append_assoc] at hahead
        have hopen : s.token.kind = .symbol .openBrace := ((Group.starts first).append _).head hahead s.last
        simp only [elements, bind_apply, token_apply, hopen]
        rcases group s with ⟨_ | _, _⟩ <;> rfl
      | placed place name g => cases place <;> cases hword
      | joined keyword g | filter c | binding inside | values columns rows => cases hword

/-- A group is read with the patterns that it stands for, unless it holds a test for absence. -/
theorem group_settles (bound : Nat) : ReadsGroups labels (group bound) bound := by
  induction bound with
  | zero => exact fun g _ hbound => absurd hbound (by omega)
  | succ bound ih =>
    intro g hfits hbound
    obtain ⟨es⟩ := g
    simp only [Group.pieces, Group.reading, Group.hasAbsence, Group.Fits, List.length_append, List.length_cons,
      List.length_nil, List.cons_append] at *
    intro s rest hs hahead hend
    obtain ⟨t, later, hts, ⟨ht, -⟩, hlater⟩ := hahead
    -- no element starts with the keyword of a query inside a query
    have hselect : Token.isKeyword (later.headD s.last) ["SELECT"] = false :=
      elementPieces_head (fun e _ => Element.not_keyword e (by decide))
        (fun u hu => isKeyword_of_kind (by simp [hu]) _) hlater
    have hopen : s.token.kind = .symbol .openBrace := by rw [token_of_ahead hts, ht]
    have hgroup : group (bound + 1) s = elements (group bound) t bound { s with ahead := later } := by
      simp only [group, bind_apply, expectSymbol_apply hopen, advance_apply, token_of_ahead hts, hts, List.tail_cons,
        atKeyword_apply]
      simp only [State.token, hselect, Bool.false_eq_true, ↓reduceIte]
    have hmarkers : markers (symbol .openBrace :: (elementPieces es ++ [symbol .closeBrace])) =
        markers (elementPieces es ++ [symbol .closeBrace]) := by simp
    rw [hmarkers] at hs ⊢
    have helements := elements_settles ih t es bound (by omega) (by omega) hfits { s with ahead := later } rest
      (hs.after (Moves.to s later) (by omega)) hlater hend
    rw [hgroup]
    cases habsence : anyAbsence es with
    | true =>
      rw [habsence] at helements
      exact helements
    | false =>
      rw [habsence] at helements
      obtain ⟨after, hok, hmoves⟩ := helements
      exact ⟨after, hok, hmoves.of_ahead⟩

end PointOfFocus.Query
