import PointOfFocus.Proofs.Query.Verb

/-!
# Reading triples

The parser reads the phrase of a node as the term that it stands for and adds the patterns of its reading, and it adds
those of a block of triples. The argument is by induction on the bound of the parser: what stands in brackets is
shorter by at least two tokens.
-/

namespace PointOfFocus.Query

open PointOfFocus.Rdf
open PointOfFocus.Text (upper upperChar)
open Phrase

variable {labels : Labels}

/-! ### What tokens can follow -/

/-- The token ends the objects of a predicate. -/
structure Token.EndsObjects (t : Token) : Prop where
  path : t.EndsPath
  object : t.startsObject = false
  text : t.EndsText
  comma : t.kind ≠ .symbol .comma

/-- The token ends the properties of a subject. -/
structure Token.EndsProperties (t : Token) : Prop where
  objects : t.EndsObjects
  semicolon : t.kind ≠ .symbol .semicolon
  verb : t.startsVerb = false

theorem endsText_of_symbol {t : Token} {x : Symbol} (h : t.kind = .symbol x) : t.EndsText := by
  simp [Token.EndsText, h]

private theorem endsObjects_semicolon {t : Token} (h : t.kind = .symbol .semicolon) : t.EndsObjects where
  path := by simp [Token.EndsPath, Token.isRepetition, h]
  object := by simp [Token.startsObject, Token.isTruth, h]
  text := endsText_of_symbol h
  comma := by simp [h]

/-- A property list ends before a closing bracket, a dot or a brace. -/
theorem endsProperties_of_symbol {t : Token} {x : Symbol} (h : t.kind = .symbol x)
    (hx : x ∈ [Symbol.closeBracket, .dot, .openBrace, .closeBrace]) : t.EndsProperties := by
  simp only [List.mem_cons, List.not_mem_nil, or_false] at hx
  rcases hx with rfl | rfl | rfl | rfl <;>
    exact ⟨⟨by simp [Token.EndsPath, Token.isRepetition, h], by simp [Token.startsObject, Token.isTruth, h],
      endsText_of_symbol h, by simp [h]⟩, by simp [h], by simp [Token.startsVerb, h]⟩

/-- The token starts a node. A plus sign does not: after a path it would repeat it. -/
structure Token.StartsNode (t : Token) : Prop where
  object : t.startsObject = true
  plus : t.kind ≠ .symbol .plus

theorem Token.StartsNode.ne {t : Token} (h : t.StartsNode) {kind : Kind}
    (hkind : ∀ text start stop, Token.startsObject ⟨kind, text, start, stop⟩ = false) : t.kind ≠ kind := by
  rintro rfl
  have := hkind t.text t.start t.stop
  exact absurd h.object (by simp [this])

private theorem Token.StartsNode.endsText {t : Token} (h : t.StartsNode) : t.EndsText :=
  ⟨h.ne fun _ _ _ => rfl, h.ne fun _ _ _ => rfl⟩

theorem Token.StartsNode.endsPath {t : Token} (h : t.StartsNode) : t.EndsPath := by
  have hstar : t.kind ≠ .symbol .star := h.ne fun _ _ _ => rfl
  have hquestion : t.kind ≠ .symbol .question := h.ne fun _ _ _ => rfl
  exact ⟨by simp [Token.isRepetition, hstar, hquestion, h.plus], h.ne fun _ _ _ => rfl, h.ne fun _ _ _ => rfl⟩

theorem startsWith_exact {Start : Token → Prop} {kind : Kind} {text : String} {ps : List Piece}
    (h : ∀ t : Token, t.kind = kind → Start t) : StartsWith Start (.exact kind text :: ps) :=
  ⟨_, _, rfl, fun t ht => h t ht.1⟩

theorem Atom.startsNode (a : Atom) : StartsWith Token.StartsNode a.pieces := by
  cases a with
  | focus hint | var mark x | blank label | text written lexical suffix =>
    exact startsWith_exact fun t ht => ⟨by simp [Token.startsObject, ht], by simp [ht]⟩
  | iri name =>
    cases name <;> exact startsWith_exact fun t ht => ⟨by simp [Token.startsObject, ht], by simp [ht]⟩
  | number negative numeral digits =>
    cases negative with
    | true => exact startsWith_exact fun t ht => ⟨by simp [Token.startsObject, ht], by simp [ht]⟩
    | false =>
      cases numeral <;> exact startsWith_exact fun t ht => ⟨by simp [Token.startsObject, ht, Numeral.kind], by
        simp [ht, Numeral.kind]⟩
  | truth value =>
    refine ⟨_, _, rfl, fun t ht => ⟨?_, by simp [ht.1]⟩⟩
    simp [Token.startsObject, ht.1, isTruth_of_matches ht]

/-- A node starts with a token that can start one. -/
theorem Node.startsNode (n : Node) : StartsWith Token.StartsNode n.pieces := by
  cases n with
  | atom a =>
    rw [Node.pieces]
    exact Atom.startsNode a
  | anonymous | blank properties | collection items =>
    rw [Node.pieces]
    exact startsWith_exact fun t ht => ⟨by simp [Token.startsObject, ht], by simp [ht]⟩

/-! ### Objects -/

/-- What is assumed of the way to read an object. -/
def ReadsNodes (labels : Labels) (object : Parser Term) (bound : Nat) : Prop :=
  ∀ n : Node, n.Fits labels → n.pieces.length < bound →
    Reads labels object n.pieces (n.reading labels) Token.EndsText

/-- The production reads the pieces as properties of the subject, before a token as required, and adds their patterns.
It leaves the subject of the pattern under construction as it is. -/
def Collects (labels : Labels) (production : Parser Unit) (pieces : List Piece) (reading : Nat → Reading Unit)
    (Follow : Token → Prop) (subject : Term) (predicate : Option Term) : Prop :=
  ∀ s rest, Ready labels (markers pieces) s → Ahead pieces s.ahead rest → Follow (rest.headD s.last) →
    s.scope.current.subject = some subject → (∀ t ∈ predicate, s.scope.current.predicate = some t) →
    ∃ after, production s = (.ok (), after) ∧
      Moves s after rest (reading s.anonymous).next (markers pieces) (reading s.anonymous).patterns ∧
      after.scope.current.subject = some subject

/-- One object completes a pattern. -/
private theorem object_completes {object : Parser Term} {n : Node} {subject predicate : Term} {s : State}
    {rest : List Token}
    (hread : Reads labels object n.pieces (n.reading labels) Token.EndsText) (hs : Ready labels (markers n.pieces) s)
    (hahead : Ahead n.pieces s.ahead rest) (hend : Token.EndsText (rest.headD s.last))
    (hsubject : s.scope.current.subject = some subject) (hpredicate : s.scope.current.predicate = some predicate) :
    ∃ middle after, object s = (.ok (n.reading labels s.anonymous).value, middle) ∧
      collectPattern { middle with scope := middle.scope.setObject (n.reading labels s.anonymous).value } =
        (.ok (), after) ∧
      Moves s after rest (n.reading labels s.anonymous).next (markers n.pieces)
        ((n.reading labels s.anonymous).patterns ++
          [{ subject, predicate, object := (n.reading labels s.anonymous).value }]) ∧
      after.scope.current.subject = some subject ∧ after.scope.current.predicate = some predicate := by
  obtain ⟨middle, hobject, hmoves, hcurrent⟩ := hread s rest hs hahead hend
  rw [← hcurrent] at hsubject hpredicate
  have hcomplete : (middle.scope.setObject (n.reading labels s.anonymous).value).current =
      ⟨some subject, some predicate, some (n.reading labels s.anonymous).value⟩ := by
    simp only [Scope.setObject, hsubject, hpredicate]
  refine ⟨middle, _, hobject, collectPattern_apply hcomplete, ?_, hsubject, hpredicate⟩
  refine ⟨hmoves.ahead, hmoves.last, hmoves.next, hmoves.marks, ?_, hmoves.labels⟩
  simp only [Scope.setObject, hmoves.patterns, List.append_assoc]

private theorem objectPieces_cons (n m : Node) (ns : List Node) :
    objectPieces (n :: m :: ns) = n.pieces ++ symbol .comma :: objectPieces (m :: ns) := by
  simp [objectPieces, commaPieces]

private theorem objects_collects {object : Parser Term} {depth : Nat} (hobject : ReadsNodes labels object depth)
    {subject predicate : Term} (ns : List Node) : ∀ (n : Node) (bound : Nat), ns.length < bound →
      nodesFit labels (n :: ns) → (objectPieces (n :: ns)).length < depth →
      Collects labels (objects object bound) (objectPieces (n :: ns)) (objectReading labels subject predicate (n :: ns))
        (fun t => t.EndsText ∧ t.kind ≠ .symbol .comma) subject (some predicate) := by
  induction ns with
  | nil =>
    intro n bound hbound hfits hdepth s rest hs hahead hend hsubject hpredicate
    obtain ⟨bound, rfl⟩ := Nat.exists_eq_succ_of_ne_zero (Nat.ne_of_gt hbound)
    have hpieces : objectPieces [n] = n.pieces := by simp [objectPieces, commaPieces]
    rw [hpieces] at hdepth hs hahead ⊢
    rw [nodesFit] at hfits
    obtain ⟨middle, after, hread, hcollect, hmoves, hcurrent, -⟩ :=
      object_completes (hobject n hfits.1 hdepth) hs hahead hend.1 hsubject (hpredicate predicate rfl)
    refine ⟨after, ?_, by simpa [objectReading] using hmoves, hcurrent⟩
    have hcomma : after.token.kind ≠ .symbol .comma := by
      rw [State.token, hmoves.ahead, hmoves.last]
      exact hend.2
    simp only [objects, bind_apply, hread, collect_apply, hcollect, atSymbol_apply, hcomma, decide_false,
      Bool.false_eq_true, ↓reduceIte, pure_apply]
  | cons m ns ih =>
    intro n bound hbound hfits hdepth s rest hs hahead hend hsubject hpredicate
    obtain ⟨bound, rfl⟩ := Nat.exists_eq_succ_of_ne_zero (Nat.ne_of_gt (Nat.zero_lt_of_lt hbound))
    rw [objectPieces_cons] at hdepth hs hahead ⊢
    rw [nodesFit] at hfits
    rw [ahead_append] at hahead
    obtain ⟨later, hn, t, others, rfl, ⟨ht, -⟩, hothers⟩ := hahead
    simp only [markers_append, markers_cons, isMarker_symbol, Bool.false_eq_true, ↓reduceIte, Nat.zero_add] at hs ⊢
    simp only [List.length_append, List.length_cons] at hdepth hbound
    obtain ⟨middle, after, hread, hcollect, hmoves, hcurrent, hcurrent'⟩ :=
      object_completes (hobject n hfits.1 (by omega)) (hs.after (Moves.refl rfl) (by omega)) hn
        (endsText_of_symbol ht) hsubject (hpredicate predicate rfl)
    have htake := hmoves.then_take
    obtain ⟨last, hobjects, hmoves', hsubject'⟩ :=
      ih m bound (by omega) hfits.2 (by omega) { after with ahead := after.ahead.tail } rest
        (hs.after htake (by omega)) (htake.ahead ▸ hothers) (by rw [htake.last]; exact hend) hcurrent
        (fun p hp => by rw [← Option.some_inj.1 hp]; exact hcurrent')
    refine ⟨last, ?_, ?_, hsubject'⟩
    · simp only [objects, bind_apply, hread, collect_apply, hcollect, atSymbol_apply, token_of_ahead hmoves.ahead, ht,
        decide_true, ↓reduceIte, advance_apply, hobjects]
    · have hboth := htake.trans hmoves'
      simpa [objectReading, hmoves.next] using hboth

/-- The objects of a predicate are read; without one the filling object is added. -/
private theorem objectList_collects {object : Parser Term} {depth bound : Nat}
    (hobject : ReadsNodes labels object depth)
    {subject predicate : Term} {ns : List Node} (hbound : ns.length ≤ bound) (hfits : nodesFit labels ns)
    (hdepth : (objectPieces ns).length < depth) (hfocus : ns = [] → predicate = .focus) :
    Collects labels (objectList object bound predicate) (objectPieces ns) (verbReading labels subject predicate ns)
      Token.EndsObjects subject (some predicate) := by
  intro s rest hs hahead hend hsubject hpredicate
  cases ns with
  | nil =>
    obtain rfl : s.ahead = rest := by simpa [objectPieces, Ahead] using hahead
    obtain rfl := hfocus rfl
    have hcomplete : (s.scope.setObject .filler).current = ⟨some subject, some .focus, some .filler⟩ := by
      simp only [Scope.setObject, hsubject, hpredicate .focus rfl]
    have hcollect := collectPattern_apply (s := { s with scope := s.scope.setObject .filler }) hcomplete
    have hnone : s.token.startsObject = false := hend.object
    have hmarker : Term.focus.isFocus = true := by decide
    refine ⟨{ s with scope := { s.scope.setObject .filler with
      patterns := s.scope.patterns ++ [{ subject, predicate := .focus, object := .filler }] } }, ?_, ?_, hsubject⟩
    · simp only [objectList, bind_apply, token_apply, hnone, Bool.false_eq_true, ↓reduceIte, hmarker,
        collect_apply, hcollect]
      rfl
    · simp only [verbReading, objectPieces]
      exact ⟨rfl, rfl, rfl, rfl, rfl, rfl⟩
  | cons n ns =>
    rw [List.length_cons] at hbound
    have hfirst : StartsWith Token.StartsNode (objectPieces (n :: ns)) := by
      rw [objectPieces]
      exact (Node.startsNode n).append _
    have hstarts : s.token.startsObject = true := (hfirst.head hahead s.last).object
    obtain ⟨after, hobjects, hmoves, hcurrent⟩ :=
      objects_collects hobject ns n bound (by omega) hfits hdepth s rest hs hahead ⟨hend.text, hend.comma⟩ hsubject
        hpredicate
    refine ⟨after, ?_, ?_, hcurrent⟩
    · simp only [objectList, bind_apply, token_apply, hstarts, ↓reduceIte, hobjects]
    · simpa only [verbReading, objectReading] using hmoves

/-! ### Properties -/

private theorem dropWhile_semicolons {ts rest : List Token} (count : Nat)
    (hahead : Ahead (semicolonPieces count) ts rest) (hend : ∀ t ∈ rest.head?, t.kind ≠ .symbol .semicolon) :
    ts.dropWhile (·.kind = .symbol .semicolon) = rest := by
  induction count generalizing ts with
  | zero =>
    obtain rfl : ts = rest := hahead
    cases ts with
    | nil => rfl
    | cons t ts => simp [hend t rfl]
  | succ count ih =>
    obtain ⟨t, later, rfl, ⟨ht, -⟩, hlater⟩ := hahead
    simp [ht, ih hlater]

private theorem markers_semicolons (count : Nat) : markers (semicolonPieces count) = 0 := by
  simp [markers, semicolonPieces, List.countP_replicate]

theorem StartsWith.pos {Start : Token → Prop} {ps : List Piece} (h : StartsWith Start ps) : 0 < ps.length := by
  obtain ⟨p, ps, rfl, -⟩ := h
  simp

private theorem length_le_objectPieces (ns : List Node) : ns.length ≤ (objectPieces ns).length := by
  cases ns with
  | nil => simp
  | cons n ns =>
    induction ns generalizing n with
    | nil =>
      have := (Node.startsNode n).pos
      simp only [objectPieces, List.length_append, List.length_cons, List.length_nil]
      omega
    | cons m ns ih =>
      have := ih m
      have := (Node.startsNode n).pos
      rw [objectPieces_cons]
      simp only [List.length_append, List.length_cons] at *
      omega

/-- A predicate is read with its objects. -/
private theorem verb_objects {object : Parser Term} {depth bound : Nat} (hobject : ReadsNodes labels object depth)
    {subject : Term} {v : Verb} {ns : List Node} {s : State} {rest : List Token}
    (hverb : v.Fits labels) (hfits : nodesFit labels ns) (hfocus : ns = [] → v.term labels = .focus)
    (hbound : (v.pieces ++ objectPieces ns).length < bound) (hdepth : (objectPieces ns).length < depth)
    (hs : Ready labels (markers (v.pieces ++ objectPieces ns)) s)
    (hahead : Ahead (v.pieces ++ objectPieces ns) s.ahead rest) (hend : Token.EndsObjects (rest.headD s.last))
    (hsubject : s.scope.current.subject = some subject) :
    ∃ middle after, verb bound s = (.ok (v.term labels), middle) ∧
      objectList object bound (v.term labels)
        { middle with scope := middle.scope.setPredicate (v.term labels) } = (.ok (), after) ∧
      Moves s after rest (verbReading labels subject (v.term labels) ns s.anonymous).next
        (markers (v.pieces ++ objectPieces ns))
        (verbReading labels subject (v.term labels) ns s.anonymous).patterns ∧
      after.scope.current.subject = some subject := by
  rw [ahead_append] at hahead
  obtain ⟨later, hv, hns⟩ := hahead
  rw [List.length_append] at hbound
  rw [markers_append] at hs ⊢
  -- the path stops at the first object, or at what follows a point of focus without one
  have hpath : Token.EndsPath (later.headD s.last) := by
    cases ns with
    | nil =>
      obtain rfl : later = rest := by simpa [objectPieces, Ahead] using hns
      exact hend.path
    | cons n ns =>
      rw [objectPieces] at hns
      exact (((Node.startsNode n).append _).head hns s.last).endsPath
  obtain ⟨middle, hread, hmoves, hcurrent⟩ :=
    verb_reads hverb (show v.pieces.length < bound by omega) s later (hs.after (Moves.refl rfl) (by omega)) hv hpath
  -- filling in the predicate adds no pattern and moves past no token
  have hset : Moves s { middle with scope := middle.scope.setPredicate (v.term labels) } later s.anonymous
      (markers v.pieces) [] :=
    ⟨hmoves.ahead, hmoves.last, hmoves.next, hmoves.marks, hmoves.patterns, hmoves.labels⟩
  have hlength := length_le_objectPieces ns
  obtain ⟨after, hobjects, hmoves', hsubject'⟩ :=
    objectList_collects hobject (show ns.length ≤ bound by omega) hfits hdepth hfocus
      { middle with scope := middle.scope.setPredicate (v.term labels) } rest (hs.after hset (by omega))
      (hset.ahead ▸ hns) (by rw [hset.last]; exact hend)
      (show middle.scope.current.subject = some subject by rw [hcurrent]; exact hsubject)
      (fun t ht => by rw [← Option.some_inj.1 ht]; rfl)
  refine ⟨middle, after, hread, hobjects, ?_, hsubject'⟩
  have hanonymous : middle.anonymous = s.anonymous := hmoves.next
  simpa [hanonymous] using hset.trans hmoves'

private theorem Properties.starts (ps : Properties) : StartsWith (·.startsVerb = true) ps.pieces := by
  cases ps with
  | last v ns count =>
    rw [Properties.pieces]
    exact ((Verb.starts v).append _).append _
  | more v ns count others =>
    rw [Properties.pieces]
    exact (((Verb.starts v).append _).append _).append _

/-- The properties of a subject are read up to a token that ends them. -/
private theorem propertyList_collects {object : Parser Term} {depth : Nat} (hobject : ReadsNodes labels object depth)
    {subject : Term} : ∀ (ps : Properties) (bound : Nat), ps.Fits labels → ps.pieces.length + 1 < bound →
      ps.pieces.length < depth →
      Collects labels (propertyList object bound) ps.pieces (ps.reading labels subject) Token.EndsProperties subject none
  | .last v ns count, bound, hfits, hbound, hdepth => by
    intro s rest hs hahead hend hsubject _
    obtain ⟨bound, rfl⟩ := Nat.exists_eq_succ_of_ne_zero (Nat.ne_of_gt (Nat.zero_lt_of_lt hbound))
    rw [Properties.Fits] at hfits
    simp only [Properties.pieces] at hbound hdepth hs hahead ⊢
    rw [ahead_append] at hahead
    obtain ⟨later, hfirst, hsemicolons⟩ := hahead
    rw [markers_append, markers_semicolons, Nat.add_zero] at hs ⊢
    simp only [List.length_append] at hbound hdepth
    -- the objects stop at the first semicolon, or where the whole list does
    have hobjects : Token.EndsObjects (later.headD s.last) := by
      cases count with
      | zero =>
        obtain rfl : later = rest := hsemicolons
        exact hend.objects
      | succ count =>
        obtain ⟨t, _, rfl, ⟨ht, -⟩, -⟩ := hsemicolons
        exact endsObjects_semicolon ht
    obtain ⟨middle, after, hverb, hlist, hmoves, hcurrent⟩ :=
      verb_objects hobject hfits.1 hfits.2.1 hfits.2.2
        (show (v.pieces ++ objectPieces ns).length < bound by simp only [List.length_append]; omega)
        (by omega) hs hfirst hobjects hsubject
    cases count with
    | zero =>
      obtain rfl : later = rest := hsemicolons
      refine ⟨after, ?_, hmoves, hcurrent⟩
      have hnone : after.token.kind ≠ .symbol .semicolon := by
        rw [State.token, hmoves.ahead, hmoves.last]
        exact hend.semicolon
      simp only [propertyList, bind_apply, hverb, collect_apply, hlist, atSymbol_apply, hnone, decide_false,
        Bool.false_eq_true, ↓reduceIte, pure_apply]
    | succ count =>
      -- no verb follows the semicolons, so they end the list instead of leading to more properties
      have hdrop := dropWhile_semicolons _ hsemicolons (fun t ht => by
        have := hend.semicolon
        rwa [List.headD_eq_head?_getD, ht] at this)
      obtain ⟨t, _, rfl, ⟨ht, -⟩, -⟩ := hsemicolons
      have hnone : Token.startsVerb (rest.headD after.last) = false := by
        rw [hmoves.last]
        exact hend.verb
      refine ⟨{ after with ahead := rest }, ?_, (hmoves.trans (Moves.to after rest)).cast ?_ ?_ ?_, hcurrent⟩
      · simp only [propertyList, bind_apply, hverb, collect_apply, hlist, atSymbol_apply, token_of_ahead hmoves.ahead,
          ht, decide_true, ↓reduceIte, skipSemicolons, modify_apply, hmoves.ahead, hdrop, token_apply]
        simp only [State.token, hnone, Bool.false_eq_true, ↓reduceIte, pure_apply]
      · exact hmoves.next
      · rfl
      · simp [Properties.reading]
  | .more v ns count others, bound, hfits, hbound, hdepth => by
    intro s rest hs hahead hend hsubject _
    obtain ⟨bound, rfl⟩ := Nat.exists_eq_succ_of_ne_zero (Nat.ne_of_gt (Nat.zero_lt_of_lt hbound))
    rw [Properties.Fits] at hfits
    simp only [Properties.pieces] at hbound hdepth hs hahead ⊢
    rw [ahead_append] at hahead
    obtain ⟨later', hbefore, hothers⟩ := hahead
    rw [ahead_append] at hbefore
    obtain ⟨later, hfirst, hsemicolons⟩ := hbefore
    rw [markers_append, markers_append, markers_semicolons, Nat.add_zero] at hs ⊢
    have hlength : (semicolonPieces (count + 1)).length = count + 1 := by simp [semicolonPieces]
    simp only [List.length_append, hlength] at hbound hdepth
    -- what follows the semicolons is a verb, and no semicolon is skipped with it
    have hstart := (Properties.starts others).head hothers
    have hdrop := dropWhile_semicolons _ hsemicolons (fun t ht => by
      have := hstart s.last
      rw [List.headD_eq_head?_getD, ht] at this
      intro hkind
      simp [Token.startsVerb, hkind] at this)
    obtain ⟨t, _, rfl, ⟨ht, -⟩, -⟩ := hsemicolons
    obtain ⟨middle, after, hverb, hlist, hmoves, hcurrent⟩ :=
      verb_objects hobject hfits.1 hfits.2.1 hfits.2.2.1
        (show (v.pieces ++ objectPieces ns).length < bound by simp only [List.length_append]; omega)
        (by omega) (hs.after (Moves.refl rfl) (by omega)) hfirst (endsObjects_semicolon ht) hsubject
    have hskip := hmoves.trans (Moves.to after later')
    obtain ⟨last, hrest, hmoves', hcurrent'⟩ :=
      propertyList_collects hobject others bound hfits.2.2.2 (by omega) (by omega) { after with ahead := later' } rest
        (hs.after hskip (by omega)) hothers (by rw [hskip.last]; exact hend) hcurrent (fun _ h => by cases h)
    refine ⟨last, ?_, (hmoves.trans hmoves'.of_ahead).cast ?_ rfl ?_, hcurrent'⟩
    · simp only [propertyList, bind_apply, hverb, collect_apply, hlist, atSymbol_apply, token_of_ahead hmoves.ahead,
        ht, decide_true, ↓reduceIte, skipSemicolons, modify_apply, hmoves.ahead, hdrop, token_apply]
      simp only [State.token, hstart, ↓reduceIte, hrest]
    · simp only [Properties.reading, hmoves.next]
    · simp only [Properties.reading, hmoves.next]

/-! ### Blank nodes and collections -/

private theorem blankNode_reads {object : Parser Term} {depth bound : Nat} (hobject : ReadsNodes labels object depth)
    {ps : Properties} (hfits : ps.Fits labels) (hbound : ps.pieces.length + 1 < bound)
    (hdepth : ps.pieces.length < depth) (Follow : Token → Prop) :
    Reads labels (blankNode object bound) (Node.blank ps).pieces ((Node.blank ps).reading labels) Follow := by
  intro s rest hs hahead _
  simp only [Node.pieces] at hs hahead ⊢
  rw [ahead_append] at hahead
  obtain ⟨later, ⟨t, inside, hts, ⟨ht, -⟩, hps⟩, u, after, rfl, ⟨hu, -⟩, rfl⟩ := hahead
  have hmarkers : markers (symbol .openBracket :: ps.pieces ++ [symbol .closeBracket]) = markers ps.pieces := by simp
  rw [hmarkers] at hs ⊢
  -- the state in which the properties are read
  obtain ⟨inner, hinner⟩ : ∃ inner : State, inner = { s with
    ahead := inside, anonymous := s.anonymous + 1,
    scope := { s.scope with current := { subject := some (madeUp s.anonymous) } } } := ⟨_, rfl⟩
  have hready : Ready labels (markers ps.pieces) inner := by subst hinner; exact ⟨hs.labels, hs.room⟩
  have hverb : inner.token.startsVerb = true := by
    subst hinner
    exact (Properties.starts ps).head hps s.last
  obtain ⟨last, hlist, hmoves, -⟩ :=
    propertyList_collects hobject ps bound hfits hbound hdepth inner (u :: after) hready
      (by subst hinner; exact hps)
      (endsProperties_of_symbol hu (by simp)) (by subst hinner; rfl) (fun _ h => by cases h)
  have hclose : last.token.kind = .symbol .closeBracket := by rw [token_of_ahead hmoves.ahead, hu]
  refine ⟨{ last with ahead := after, scope := { last.scope with current := s.scope.current } }, ?_, ?_, rfl⟩
  · have hopen : s.token.kind = .symbol .openBracket := by rw [token_of_ahead hts, ht]
    simp only [blankNode, bind_apply, expectSymbol_apply hopen, advance_apply, freshVariable_apply, nested_apply,
      collect_apply, token_apply, hts, List.tail_cons, Scope.setSubject, ← hinner, hverb, Bool.not_true,
      Bool.false_eq_true, ↓reduceIte, hlist]
    rw [expectSymbol_apply]
    · simp only [advance_apply, hmoves.ahead, List.tail_cons, pure_apply, Node.reading]
    · exact hclose
  · simp only [Node.reading]
    subst hinner
    exact ⟨rfl, hmoves.last, hmoves.next, hmoves.marks, hmoves.patterns, hmoves.labels⟩

private theorem items_reads {object : Parser Term} {depth : Nat} (hobject : ReadsNodes labels object depth)
    (opening : Token) (Follow : Token → Prop) (ns : List Node) : ∀ bound : Nat, ns.length < bound → nodesFit labels ns →
      (itemPieces ns).length < depth →
      Reads labels (items object opening bound) (itemPieces ns ++ [symbol .closeParen]) (itemReading labels ns)
        Follow := by
  induction ns with
  | nil =>
    intro bound hbound _ _ s rest _ hahead _
    obtain ⟨bound, rfl⟩ := Nat.exists_eq_succ_of_ne_zero (Nat.ne_of_gt hbound)
    rw [itemPieces] at hahead
    obtain ⟨t, later, hts, ⟨ht, -⟩, rfl⟩ := hahead
    refine ⟨{ s with ahead := s.ahead.tail }, ?_, ?_, rfl⟩
    · simp only [items, bind_apply, token_apply, token_of_ahead hts, ht, ↓reduceIte, advance_apply, pure_apply,
        itemReading]
    · simp only [itemReading, itemPieces]
      exact Moves.take hts
  | cons n ns ih =>
    intro bound hbound hfits hdepth s rest hs hahead _
    obtain ⟨bound, rfl⟩ := Nat.exists_eq_succ_of_ne_zero (Nat.ne_of_gt (Nat.zero_lt_of_lt hbound))
    rw [nodesFit] at hfits
    simp only [itemPieces, List.append_assoc] at hs hahead ⊢
    simp only [itemPieces, List.length_append] at hdepth
    rw [ahead_append] at hahead
    obtain ⟨later, hn, hothers⟩ := hahead
    rw [markers_append] at hs ⊢
    have hnode := (Node.startsNode n).head hn s.last
    -- an item stops at the next one or at the closing parenthesis
    have hfollow : Token.EndsText (later.headD s.last) := by
      cases ns with
      | nil =>
        rw [itemPieces] at hothers
        obtain ⟨u, _, rfl, ⟨hu, -⟩, -⟩ := hothers
        exact endsText_of_symbol hu
      | cons m ns =>
        rw [itemPieces, List.append_assoc] at hothers
        exact (((Node.startsNode m).append _).head hothers s.last).endsText
    obtain ⟨middle, hread, hmoves, hcurrent⟩ :=
      hobject n hfits.1 (by omega) s later (hs.after (Moves.refl rfl) (by omega)) hn hfollow
    obtain ⟨after, hrest, hmoves', hcurrent'⟩ :=
      ih bound (Nat.lt_of_succ_lt_succ hbound) hfits.2 (by omega) middle rest (hs.after hmoves (by omega))
        (hmoves.ahead ▸ hothers) (by rw [hmoves.last]; assumption)
    refine ⟨after, ?_, (hmoves.trans hmoves').cast ?_ rfl ?_, hcurrent'.trans hcurrent⟩
    · -- the start of a node is neither of the two tokens that end the loop
      have hclose : s.token.kind ≠ .symbol .closeParen := hnode.ne fun _ _ _ => rfl
      have heof : s.token.kind ≠ .eof := hnode.ne fun _ _ _ => rfl
      simp only [items, bind_apply, token_apply, hclose, heof, ↓reduceIte, hread, hrest, pure_apply, itemReading,
        hmoves.next]
    · simp only [itemReading, hmoves.next]
    · simp only [itemReading, hmoves.next]

/-- The variables from the given number on. -/
def madeUps (n count : Nat) : List Term := (List.range' n count).map madeUp

/-- For each item of a collection a variable is made up. -/
theorem freshNodes_apply (ts : List Term) (s : State) :
    freshNodes ts s =
      (.ok (madeUps s.anonymous ts.length), { s with anonymous := s.anonymous + ts.length }) := by
  induction ts generalizing s with
  | nil => rfl
  | cons t ts ih =>
    have hlength : s.anonymous + 1 + ts.length = s.anonymous + (ts.length + 1) := by omega
    simp only [freshNodes, bind_apply, freshVariable_apply, ih, pure_apply, madeUps, List.length_cons,
      List.range'_succ, List.map_cons, hlength]

/-- The state with further patterns, and with the given pattern under construction. -/
def State.adding (s : State) (current : Cursor) (patterns : List Pattern) : State :=
  { s with scope := { s.scope with current, patterns := s.scope.patterns ++ patterns } }

private theorem State.adding_adding (s : State) (c c' : Cursor) (ps qs : List Pattern) :
    (s.adding c ps).adding c' qs = s.adding c' (ps ++ qs) := by
  simp [State.adding]

private theorem link_apply (subject : Term) (predicate : String) (object : Term) (s : State) :
    ∃ current, link subject predicate object s =
      (.ok (), s.adding current [{ subject, predicate := .iri predicate, object }]) := by
  refine ⟨⟨some subject, some (.iri predicate), some object⟩, ?_⟩
  simp only [link, bind_apply, collect_apply]
  exact collectPattern_apply rfl

/-- The patterns of a list are added. -/
theorem linkNodes_apply (ts : List Term) (n : Nat) (s : State) :
    ∃ current, linkNodes ((madeUps n ts.length).zip ts) s = (.ok (), s.adding current (listPatterns n ts)) := by
  induction ts generalizing n s with
  | nil => exact ⟨s.scope.current, by simp [madeUps, linkNodes, pure_apply, listPatterns, State.adding]⟩
  | cons t ts ih =>
    have hzip : (madeUps n (t :: ts).length).zip (t :: ts) = (madeUp n, t) :: (madeUps (n + 1) ts.length).zip ts := by
      simp [madeUps, List.range'_succ]
    obtain ⟨current, hfirst⟩ := link_apply (madeUp n) firstIri t s
    obtain ⟨current', hrest⟩ := link_apply (madeUp n) restIri
      ((((madeUps (n + 1) ts.length).zip ts).head?.map (·.1)).getD (.iri nilIri))
      (s.adding current [{ subject := madeUp n, predicate := .iri firstIri, object := t }])
    rw [State.adding_adding] at hrest
    obtain ⟨current'', hothers⟩ := ih (n + 1) (s.adding current' ([⟨madeUp n, .iri firstIri, t, false⟩] ++
      [⟨madeUp n, .iri restIri, (((madeUps (n + 1) ts.length).zip ts).head?.map (·.1)).getD (.iri nilIri), false⟩]))
    refine ⟨current'', ?_⟩
    rw [hzip]
    simp only [linkNodes, bind_apply, hfirst, hrest, hothers, State.adding_adding]
    cases ts with
    | nil => simp [listPatterns, madeUps]
    | cons u ts => simp [listPatterns, madeUps, List.range'_succ]

private theorem length_itemReading (ns : List Node) (n : Nat) : (itemReading labels ns n).value.length = ns.length := by
  induction ns generalizing n with
  | nil => simp [itemReading]
  | cons m ns ih => simp [itemReading, ih]

private theorem length_le_itemPieces (ns : List Node) : ns.length ≤ (itemPieces ns).length := by
  induction ns with
  | nil => simp
  | cons n ns ih =>
    have := (Node.startsNode n).pos
    simp only [itemPieces, List.length_append, List.length_cons]
    omega

private theorem collection_reads {object : Parser Term} {depth bound : Nat} (hobject : ReadsNodes labels object depth)
    {ns : List Node} (hfits : nodesFit labels ns) (hbound : (itemPieces ns).length < bound)
    (hdepth : (itemPieces ns).length < depth) (Follow : Token → Prop) :
    Reads labels (collection object bound) (Node.collection ns).pieces ((Node.collection ns).reading labels) Follow := by
  intro s rest hs hahead hend
  simp only [Node.pieces, List.cons_append] at hs hahead ⊢
  obtain ⟨t, inside, hts, ⟨ht, -⟩, hinside⟩ := hahead
  rw [markers_cons, isMarker_symbol] at hs ⊢
  simp only [Bool.false_eq_true, ↓reduceIte, Nat.zero_add] at hs ⊢
  have htake := Moves.take hts
  have hlength := length_le_itemPieces ns
  obtain ⟨middle, hitems, hmoves, hcurrent⟩ :=
    items_reads hobject t Follow ns bound (by omega) hfits hdepth { s with ahead := s.ahead.tail } rest
      (hs.after htake (by omega)) (htake.ahead ▸ hinside) hend
  have hanonymous : middle.anonymous = (itemReading labels ns s.anonymous).next := hmoves.next
  have hopen : s.token.kind = .symbol .openParen := by rw [token_of_ahead hts, ht]
  -- only an empty collection has no nodes of its own
  obtain ⟨terms, hterms⟩ : ∃ terms, terms = (itemReading labels ns s.anonymous).value := ⟨_, rfl⟩
  simp only [Node.reading, listReading, ← hterms] at hitems ⊢
  cases terms with
  | nil =>
    refine ⟨middle, ?_, hmoves.of_ahead.cast ?_ rfl ?_, hcurrent⟩
    · simp only [collection, bind_apply, expectSymbol_apply hopen, advance_apply, token_of_ahead hts, hitems,
        freshNodes_apply, madeUps, List.length_nil, List.range'_zero, List.map_nil, pure_apply, ↓reduceIte,
        Nat.add_zero]
    · simp
    · simp [listPatterns]
  | cons first others =>
    obtain ⟨current, hlinks⟩ := linkNodes_apply (first :: others) middle.anonymous
      { middle with
        anonymous := middle.anonymous + (first :: others).length, scope := { middle.scope with current := {} } }
    refine ⟨{ middle with
      anonymous := middle.anonymous + (first :: others).length,
      scope := { middle.scope with
        patterns := middle.scope.patterns ++ listPatterns middle.anonymous (first :: others) } }, ?_, ?_, hcurrent⟩
    · have hnodes : madeUps middle.anonymous (first :: others).length =
          madeUp middle.anonymous :: madeUps (middle.anonymous + 1) others.length := by
        simp [madeUps, List.range'_succ]
      rw [← hanonymous]
      rw [hnodes] at hlinks
      simp only [collection, bind_apply, expectSymbol_apply hopen, advance_apply, token_of_ahead hts, hitems,
        freshNodes_apply, hnodes, nested_apply, hlinks, pure_apply, State.adding, reduceCtorEq, ↓reduceIte]
    · have hpatterns := hmoves.patterns
      simp only [hterms, length_itemReading] at *
      exact ⟨hmoves.ahead, hmoves.last, by rw [hanonymous], hmoves.marks, by
        rw [hpatterns, hanonymous, List.append_assoc], hmoves.labels⟩

/-! ### Nodes -/

/-- A bracket that is not closed at once is a blank node with properties. -/
theorem atBlankNode_apply (s : State) :
    atBlankNode s = (.ok (s.token.kind = .symbol .openBracket && s.next.kind ≠ .symbol .closeBracket), s) := rfl

/-- The token opens neither a bracket nor a parenthesis. -/
def Token.OpensNothing (t : Token) : Prop := t.kind ≠ .symbol .openBracket ∧ t.kind ≠ .symbol .openParen

/-- A simple node opens no bracket. -/
theorem Atom.opensNothing (a : Atom) : StartsWith Token.OpensNothing a.pieces := by
  cases a with
  | focus hint | var mark x | blank label | text written lexical suffix =>
    exact startsWith_exact fun t ht => ⟨by simp [ht], by simp [ht]⟩
  | iri name => cases name <;> exact startsWith_exact fun t ht => ⟨by simp [ht], by simp [ht]⟩
  | number negative numeral digits =>
    cases negative with
    | true => exact startsWith_exact fun t ht => ⟨by simp [ht], by simp [ht]⟩
    | false => cases numeral <;> exact startsWith_exact fun t ht => ⟨by simp [ht, Numeral.kind], by
        simp [ht, Numeral.kind]⟩
  | truth value => exact ⟨_, _, rfl, fun t ht => ⟨by simp [ht.1], by simp [ht.1]⟩⟩

private theorem graphNode_atom {a : Atom} (role : Role) (hfits : a.Fits labels) :
    Reads labels (graphNode role) (Node.atom a).pieces ((Node.atom a).reading labels) Token.EndsText := by
  intro s rest hs hahead hend
  simp only [Node.pieces] at hs hahead ⊢
  obtain ⟨after, hterm, hmoves⟩ := simpleTerm_reads role hfits s rest hs hahead hend
  have hopen : s.token.kind ≠ .symbol .openBracket := ((Atom.opensNothing a).head hahead s.last).1
  refine ⟨after, ?_, by simpa only [Node.reading] using hmoves⟩
  simp only [graphNode, bind_apply, atSymbol_apply, hopen, decide_false, Bool.false_eq_true, ↓reduceIte, hterm,
    Node.reading]

private theorem graphNode_anonymous (role : Role) (Follow : Token → Prop) :
    Reads labels (graphNode role) Node.anonymous.pieces (Node.anonymous.reading labels) Follow := by
  intro s rest _ hahead _
  simp only [Node.pieces] at hahead ⊢
  obtain ⟨t, later, hts, ⟨ht, -⟩, u, _, rfl, ⟨hu, -⟩, rfl⟩ := hahead
  have hclose : ({ s with ahead := s.ahead.tail } : State).token.kind = .symbol .closeBracket := by
    rw [State.token, hts]
    exact hu
  refine ⟨{ s with ahead := s.ahead.tail.tail, anonymous := s.anonymous + 1 }, ?_, ?_, rfl⟩
  · simp only [graphNode, bind_apply, atSymbol_apply, token_of_ahead hts, ht, decide_true, ↓reduceIte, advance_apply,
      expectSymbol_apply hclose, freshVariable_apply, Node.reading]
  · simp only [Node.reading]
    exact ⟨by simp [hts], rfl, rfl, rfl, by simp, rfl⟩

/-- The tokens at hand open a blank node with properties, or they do not, as the node says. -/
private theorem atBlankNode_node {n : Node} {s : State} {rest : List Token} (hahead : Ahead n.pieces s.ahead rest) :
    atBlankNode s = (.ok n.isBlank, s) := by
  rw [atBlankNode_apply]
  cases n with
  | atom a =>
    rw [Node.pieces] at hahead
    have hopen : s.token.kind ≠ .symbol .openBracket := ((Atom.opensNothing a).head hahead s.last).1
    simp [hopen, Node.isBlank]
  | anonymous =>
    rw [Node.pieces] at hahead
    obtain ⟨t, later, hts, -, u, _, rfl, ⟨hu, -⟩, -⟩ := hahead
    simp [State.next, hts, hu, Node.isBlank]
  | blank ps =>
    rw [Node.pieces, List.cons_append] at hahead
    obtain ⟨t, later, hts, ⟨ht, -⟩, hlater⟩ := hahead
    have hverb := ((Properties.starts ps).append _).head hlater s.last
    have hnext : s.next.kind ≠ .symbol .closeBracket := by
      intro hkind
      rw [State.next, hts, List.tail_cons] at hkind
      simp only [Token.startsVerb, hkind, Bool.false_eq_true] at hverb
    simp [token_of_ahead hts, ht, hnext, Node.isBlank]
  | collection ns =>
    rw [Node.pieces, List.cons_append] at hahead
    obtain ⟨t, later, hts, ⟨ht, -⟩, -⟩ := hahead
    simp [token_of_ahead hts, ht, Node.isBlank]

private theorem atSymbol_node {n : Node} {s : State} {rest : List Token} (hahead : Ahead n.pieces s.ahead rest) :
    atSymbol .openParen s = (.ok n.isCollection, s) := by
  rw [atSymbol_apply]
  cases n with
  | atom a =>
    rw [Node.pieces] at hahead
    have hopen : s.token.kind ≠ .symbol .openParen := ((Atom.opensNothing a).head hahead s.last).2
    simp [hopen, Node.isCollection]
  | anonymous | blank ps | collection ns =>
    rw [Node.pieces] at hahead
    obtain ⟨t, later, hts, ⟨ht, -⟩, -⟩ := hahead
    simp [token_of_ahead hts, ht, Node.isCollection]

/-- An object is read as the term that it stands for, and its patterns are added. -/
private theorem object_reads (bound : Nat) : ReadsNodes labels (object bound) bound := by
  induction bound with
  | zero => exact fun n _ hbound => absurd hbound (Nat.not_lt_zero _)
  | succ bound ih =>
    intro n hfits hbound s rest hs hahead hend
    have hblank := atBlankNode_node hahead
    have hparen := atSymbol_node hahead
    cases n with
    | atom a =>
      obtain ⟨after, hread, hmoves⟩ := graphNode_atom .object (by simpa only [Node.Fits] using hfits) s rest hs hahead hend
      refine ⟨after, ?_, hmoves⟩
      simp only [object, bind_apply, hblank, hparen, Node.isBlank, Node.isCollection, Bool.false_eq_true, ↓reduceIte, hread]
    | anonymous =>
      obtain ⟨after, hread, hmoves⟩ := graphNode_anonymous .object Token.EndsText s rest hs hahead hend
      refine ⟨after, ?_, hmoves⟩
      simp only [object, bind_apply, hblank, hparen, Node.isBlank, Node.isCollection, Bool.false_eq_true, ↓reduceIte, hread]
    | blank ps =>
      simp only [Node.pieces, List.length_append, List.length_cons, List.length_nil] at hbound
      obtain ⟨after, hread, hmoves⟩ :=
        blankNode_reads ih (by simpa only [Node.Fits] using hfits) (show ps.pieces.length + 1 < bound by omega) (by omega)
          Token.EndsText s rest hs hahead hend
      refine ⟨after, ?_, hmoves⟩
      simp only [object, bind_apply, hblank, Node.isBlank, ↓reduceIte, hread]
    | collection ns =>
      simp only [Node.pieces, List.length_append, List.length_cons, List.length_nil] at hbound
      obtain ⟨after, hread, hmoves⟩ :=
        collection_reads ih (by simpa only [Node.Fits] using hfits) (show (itemPieces ns).length < bound by omega)
          (by omega) Token.EndsText s rest hs hahead hend
      refine ⟨after, ?_, hmoves⟩
      simp only [object, bind_apply, hblank, hparen, Node.isBlank, Node.isCollection, Bool.false_eq_true, ↓reduceIte, hread]

/-! ### Blocks of triples -/

theorem endsText_of_startsVerb {t : Token} (h : t.startsVerb = true) : t.EndsText := by
  constructor <;> intro hkind <;> simp [Token.startsVerb, hkind] at h

/-- The subject of a block is read. -/
private theorem subject_reads {bound : Nat} {n : Node} (hfits : n.Fits labels) (hbound : n.pieces.length + 1 < bound) :
    Reads labels
      (do
        let isBlank ← atBlankNode
        let isCollection ← atSymbol .openParen
        if isBlank then blankNode (object bound) bound
        else if isCollection then collection (object bound) bound
        else graphNode .subject)
      n.pieces (n.reading labels) Token.EndsText := by
  intro s rest hs hahead hend
  have hblank := atBlankNode_node hahead
  have hparen := atSymbol_node hahead
  cases n with
  | atom a =>
    obtain ⟨after, hread, hmoves⟩ := graphNode_atom .subject (by simpa only [Node.Fits] using hfits) s rest hs hahead hend
    refine ⟨after, ?_, hmoves⟩
    simp only [bind_apply, hblank, hparen, Node.isBlank, Node.isCollection, Bool.false_eq_true, ↓reduceIte, hread]
  | anonymous =>
    obtain ⟨after, hread, hmoves⟩ := graphNode_anonymous .subject Token.EndsText s rest hs hahead hend
    refine ⟨after, ?_, hmoves⟩
    simp only [bind_apply, hblank, hparen, Node.isBlank, Node.isCollection, Bool.false_eq_true, ↓reduceIte, hread]
  | blank ps =>
    simp only [Node.pieces, List.length_append, List.length_cons, List.length_nil] at hbound
    obtain ⟨after, hread, hmoves⟩ :=
      blankNode_reads (object_reads bound) (by simpa only [Node.Fits] using hfits)
        (show ps.pieces.length + 1 < bound by omega) (by omega) Token.EndsText s rest hs hahead hend
    refine ⟨after, ?_, hmoves⟩
    simp only [bind_apply, hblank, hparen, Node.isBlank, ↓reduceIte, hread]
  | collection ns =>
    simp only [Node.pieces, List.length_append, List.length_cons, List.length_nil] at hbound
    obtain ⟨after, hread, hmoves⟩ :=
      collection_reads (object_reads bound) (by simpa only [Node.Fits] using hfits)
        (show (itemPieces ns).length < bound by omega) (by omega) Token.EndsText s rest hs hahead hend
    refine ⟨after, ?_, hmoves⟩
    simp only [bind_apply, hblank, hparen, Node.isBlank, Node.isCollection, Bool.false_eq_true, ↓reduceIte, hread]

/-- A block of triples is read, and its patterns are added. -/
theorem triples_settles {bound : Nat} {b : Block} (hfits : b.Fits labels) (hbound : b.pieces.length + 1 < bound) :
    Settles labels (triples bound) b.pieces (b.reading labels) Token.EndsProperties false := by
  intro s rest hs hahead hend
  obtain ⟨subject, properties⟩ := b
  obtain ⟨hsubject, hproperties, hcompound⟩ := hfits
  change Node.Fits labels subject at hsubject
  simp only [Block.pieces] at hbound hs hahead ⊢
  rw [List.length_append] at hbound
  rw [markers_append] at hs ⊢
  rw [ahead_append] at hahead
  obtain ⟨later, hfirst, hothers⟩ := hahead
  have hblank := atBlankNode_node hfirst
  have hparen := atSymbol_node hfirst
  -- a text as the subject stops at the verb, or where the block does
  have htext : Token.EndsText (later.headD s.last) := by
    cases properties with
    | none =>
      obtain rfl : later = rest := hothers
      exact hend.objects.text
    | some ps => exact endsText_of_startsVerb ((Properties.starts ps).head hothers s.last)
  obtain ⟨middle, hread, hmoves, -⟩ :=
    subject_reads hsubject (show subject.pieces.length + 1 < bound by omega) s later
      (hs.after (Moves.refl rfl) (by omega)) hfirst htext
  simp only [bind_apply, hblank, hparen] at hread
  have hset : Moves s { middle with scope := middle.scope.setSubject (subject.reading labels s.anonymous).value } later
      (subject.reading labels s.anonymous).next (markers subject.pieces)
      (subject.reading labels s.anonymous).patterns :=
    ⟨hmoves.ahead, hmoves.last, hmoves.next, hmoves.marks, hmoves.patterns, hmoves.labels⟩
  cases properties with
  | none =>
    obtain rfl : later = rest := hothers
    refine ⟨_, ?_, by simpa [Block.reading] using hset⟩
    have hverb : Token.startsVerb (later.headD s.last) = false := hend.verb
    -- a subject without properties is written with brackets
    have hno : (!subject.isBlank && !subject.isCollection) = false := by
      simpa [Node.isCompound, imp_iff_not_or, or_comm] using hcompound rfl
    simp only [triples, bind_apply, hblank, hparen, hno]
    cases hb : subject.isBlank <;> cases hc : subject.isCollection <;>
      simp only [hb, hc, Bool.false_eq_true, ↓reduceIte] at hread ⊢ <;>
      simp only [bind_apply, hread, collect_apply, token_apply, State.token, hmoves.ahead, hmoves.last, hverb,
        Bool.false_eq_true, ↓reduceIte, pure_apply]
  | some ps =>
    simp only [Option.map_some, Option.getD_some] at hothers hs hbound ⊢
    have hverb := (Properties.starts ps).head hothers s.last
    obtain ⟨after, hlist, hmoves', -⟩ :=
      propertyList_collects (object_reads bound) ps bound (hproperties ps rfl) (by omega) (by omega)
        { middle with scope := middle.scope.setSubject (subject.reading labels s.anonymous).value } rest
        (hs.after hset (by omega)) (hset.ahead ▸ hothers) (by rw [hset.last]; exact hend) rfl (fun _ h => by cases h)
    refine ⟨after, ?_, (hset.trans hmoves').cast ?_ rfl ?_⟩
    · simp only [triples, bind_apply, hblank, hparen]
      cases hb : subject.isBlank <;> cases hc : subject.isCollection <;>
        simp only [hb, hc, Bool.false_eq_true, ↓reduceIte] at hread ⊢ <;>
        simp only [bind_apply, hread, collect_apply, token_apply, State.token, hmoves.ahead, hmoves.last, hverb,
          ↓reduceIte] <;>
        exact hmoves.ahead ▸ hmoves.last ▸ hlist
    · simp only [Block.reading, hmoves.next]
    · simp only [Block.reading, hmoves.next]

end PointOfFocus.Query
