import PointOfFocus.Proofs.Query.Desugaring
import PointOfFocus.Proofs.Query.Soundness
import PointOfFocus.Proofs.Query.Terms
import PointOfFocus.Proofs.Template.Recommendation

/-!
# Recommendation queries that are read back

The text of a recommendation query is cut into the tokens of a phrase: a block of triples for each line of a pattern,
calls for the lines that filter, and a variable or an expression for the projection. What is read from it are therefore
the patterns that its lines stand for (`parse_recommendation`), which are those that it was written from where every term
is read as it is written (`recommendationText_reread`).
-/

namespace PointOfFocus.Query

open PointOfFocus.Rdf
open PointOfFocus.Text
open PointOfFocus.Template (patternLine filterText recommendationText)
open Phrase

/-! ### Reading tokens -/

/-- A text that is cut into the tokens of a phrase is read as the phrase says. -/
private theorem parse_of_yields {q : Phrase} (hq : q.Fits) (habsence : q.group.hasAbsence = false) {text : List Char}
    (h : Yields text q.pieces) : ∃ s, parse text = .ok s ∧ s.patterns = q.patterns := by
  obtain ⟨ts, hread, hmatches⟩ := h.tokens
  have hsettles := parseTokens_settles hq hmatches text.length
  rw [habsence, if_neg (by decide)] at hsettles
  obtain ⟨s, hparse, hpatterns⟩ := hsettles
  refine ⟨s, ?_, hpatterns⟩
  simp only [parse, parseInto, hread, hparse]
  rfl

/-! ### Keywords, blanks and skipped tokens -/

theorem writes_space : Writes Anything " " [] := writes_blanks (by decide)

private theorem writes_newline : Writes Anything "\n" [] := writes_blanks (by decide)

theorem writes_indent : Writes Anything "  " [] := writes_blanks (by decide)

theorem writes_word (word : String) (hne : word.toList ≠ []) (hletters : ∀ c ∈ word.toList, c ∈ letters) {p : Piece}
    (hp : ∀ start stop, p.Matches ⟨.word, word, start, stop⟩) : Writes Delimited word [p] :=
  writes_token hne (fun _ hrest => lexeme?_word hne hletters hrest) (by simp) hp

private theorem writes_keyword (word : String) (hne : word.toList ≠ []) (hletters : ∀ c ∈ word.toList, c ∈ letters)
    (hupper : upper word = word) : Writes Delimited word [.keyword word] :=
  writes_word word hne hletters fun _ _ => ⟨rfl, hupper⟩

theorem writes_skipped (x : Symbol) (h : x ∈ plainSymbols) : Writes Anything x.text [skippedSymbol x] :=
  writes_symbol x h fun _ _ => ⟨rfl, rfl⟩

private theorem writes_inQuotes (text : String) : Writes Unquoted (inQuotes text) [.skipped .string (inQuotes text)] :=
  writes_string text fun _ _ => ⟨rfl, rfl⟩

theorem writes_argument (text : String) {second : String} {qs : List Piece} (h : Writes Anything second qs) {d : Char}
    (hstart : second.toList.head? = some d) (hd : d ≠ '"') :
    Writes Anything (inQuotes text ++ second) (.skipped .string (inQuotes text) :: qs) := by
  refine (writes_inQuotes text).append h fun rest _ => ?_
  obtain ⟨cs, hcs⟩ := List.head?_eq_some_iff.1 hstart
  simp [Unquoted, hcs, hd]

/-! ### Groups -/

/-- The labels of a query without declarations. -/
def noLabels : Labels := labelsOf []

/-- The text is that of the elements of a group which stands for the patterns. -/
structure BodyWritten (text : String) (ps : List Pattern) (es : List Element) : Prop where
  reading : ∀ n, elementReading noLabels es n = ⟨(), ps, n⟩
  fits : elementsFit noLabels es
  absence : anyAbsence es = false
  writes : Writes Anything text (elementPieces es)

theorem BodyWritten.nil : BodyWritten "" [] [] where
  reading := fun n => by rw [elementReading]
  fits := by rw [elementsFit]; trivial
  absence := by rw [anyAbsence]
  writes := writes_blanks (by simp)

/-- The literals among the subjects and objects of the patterns. -/
def literals (ps : List Pattern) : List Literal :=
  ps.flatMap fun p => [p.subject, p.object].filterMap fun
    | .literal l => some l
    | _ => none

/-- The literals of a pattern are among those of all patterns. -/
theorem mem_literals {ps : List Pattern} {p : Pattern} {l : Literal} (hp : p ∈ ps)
    (hl : p.subject = .literal l ∨ p.object = .literal l) : l ∈ literals ps := by
  refine List.mem_flatMap.2 ⟨p, hp, List.mem_filterMap.2 ?_⟩
  rcases hl with hl | hl
  · exact ⟨p.subject, by simp, by rw [hl]⟩
  · exact ⟨p.object, by simp, by rw [hl]⟩

/-- The pattern has the shape of those of a query, and its terms are read as they are written. -/
structure Legible (p : Pattern) : Prop where
  shape : PatternShape p
  literals : ∀ l, p.subject = .literal l ∨ p.object = .literal l → l.IsSteady ∧ l.qualifier ≠ .datatype ""
  inverses : hasDoubleInverse p.predicate = false

/-- The pattern without its mark. -/
def unmarked (p : Pattern) : Pattern := { p with leaf := false }

/-- The text is that of a block of triples and a dot, which stand for the pattern. -/
def LineWritten (text : String) (p : Pattern) : Prop :=
  ∃ b : Block, (∀ n, b.reading noLabels n = ⟨(), [p], n⟩) ∧ b.Fits noLabels ∧
    Writes Anything text (b.pieces ++ [symbol .dot])

/-- The text from the space before the last term of a line on. -/
theorem writes_lineEnd {o : String} {ps : List Piece} (h : Writes Delimited o ps) :
    Writes Anything (" " ++ (o ++ (" " ++ ("." ++ "\n")))) (ps ++ [symbol .dot]) := by
  have hdot : Writes Delimited "." [symbol .dot] :=
    writes_token (by decide) (fun _ hrest => lexeme?_dot hrest) (by simp) fun _ _ => ⟨rfl, rfl⟩
  have hend := writes_space.before (hdot.beforeDelimiter writes_newline rfl (by decide))
  exact writes_space.before (h.beforeDelimiter hend rfl (by decide))

/-- A line is cut into the tokens of its terms. -/
theorem writes_line {s q o : String} {ps qs os : List Piece} (hs : Writes Delimited s ps) (hq : Writes Delimited q qs)
    (ho : Writes Delimited o os) :
    Writes Anything (patternLine (s ++ " " ++ q ++ " " ++ o ++ " .")) (ps ++ (qs ++ (os ++ [symbol .dot]))) := by
  have hpredicate := writes_space.before (hq.beforeDelimiter (d := ' ') (writes_lineEnd ho) (by simp) (by decide))
  have hline := writes_indent.before (hs.beforeDelimiter (d := ' ') hpredicate (by simp) (by decide))
  simpa [patternLine, String.append_assoc] using hline

/-- A line of three terms stands for the pattern of them. -/
theorem lineWritten_of_terms {s q o : String} {a c : Atom} {v : Verb} (ha : a.Fits noLabels) (hv : v.Fits noLabels)
    (hc : c.Fits noLabels) (hs : Writes Delimited s a.pieces) (hq : Writes Delimited q v.pieces)
    (ho : Writes Delimited o c.pieces) : LineWritten (patternLine (s ++ " " ++ q ++ " " ++ o ++ " ."))
      { subject := a.term noLabels, predicate := v.term noLabels, object := c.term noLabels } := by
  refine ⟨⟨.atom a, some (.last v [.atom c] 0)⟩, fun n => ?_, ⟨?_, ?_, ?_⟩, ?_⟩
  · simp [Block.reading, Node.reading, Properties.reading, verbReading, objectReading]
  · rwa [Node.Fits]
  · rintro _ ⟨rfl⟩
    rw [Properties.Fits]
    exact ⟨hv, ⟨by rwa [Node.Fits], by rw [nodesFit]; trivial⟩, by simp⟩
  · simp
  · simpa [Block.pieces, Node.pieces, Properties.pieces, objectPieces, commaPieces, semicolonPieces] using
      writes_line hs hq ho

/-- The line of a pattern stands for it. -/
private theorem line_written {p : Pattern} (h : Legible p) :
    ∃ text, p.render = .ok text ∧ LineWritten (patternLine text) (unmarked p) := by
  obtain ⟨s, hs, a, hsFits, hsWrites, hsubject⟩ := node_written h.shape.subject
    (fun l hl hleaves => (h.literals l (.inl hl)).1.line hleaves.1) noLabels
  obtain ⟨q, hq, v, hpredicate, hqFits, hqWrites⟩ := verb_written h.shape.predicate h.inverses noLabels
  obtain ⟨o, ho, c, hoFits, hoWrites, hobject⟩ := node_written h.shape.object
    (fun l hl hleaves => (h.literals l (.inr hl)).1.line hleaves.1) noLabels
  have hline := lineWritten_of_terms hsFits hqFits hoFits hsWrites hqWrites hoWrites
  rw [hsubject fun l hl => h.literals l (.inl hl), hpredicate, hobject fun l hl => h.literals l (.inr hl)] at hline
  exact ⟨s ++ " " ++ q ++ " " ++ o ++ " .", by rw [Pattern.render, hs, hq, ho]; rfl, hline⟩

/-- A line is written before others. -/
private theorem BodyWritten.line {text line : String} {ps : List Pattern} {es : List Element}
    (h : BodyWritten text ps es)
    {p : Pattern} (hline : LineWritten line p) : ∃ es, BodyWritten (line ++ text) (p :: ps) es := by
  obtain ⟨b, hreading, hfits, hwrites⟩ := hline
  refine ⟨.block b :: .dot :: es, fun n => ?_, ?_, ?_, ?_⟩
  · simp [elementReading, Element.reading, hreading, h.reading]
  · simpa [elementsFit, Element.Fits, Element.isBlock, hfits] using h.fits
  · simpa [anyAbsence, Element.hasAbsence] using h.absence
  · simpa [elementPieces, Element.pieces] using hwrites.before h.writes

/-- Lines are written one after the other. -/
theorem BodyWritten.lines {text : String} {es : List Element} (h : BodyWritten text [] es) {lines : List String}
    {ps : List Pattern} (hlines : List.Forall₂ LineWritten lines ps) :
    ∃ es, BodyWritten (String.join lines ++ text) ps es := by
  induction hlines with
  | nil => exact ⟨es, by simpa using h⟩
  | cons hline _ ih =>
    obtain ⟨es, hbody⟩ := ih
    obtain ⟨es, hall⟩ := hbody.line hline
    exact ⟨es, by simpa [String.append_assoc] using hall⟩

/-- The patterns are written one after the other. -/
private theorem lines_written {ps : List Pattern} (hps : ∀ p ∈ ps, Legible p) : ∃ written,
    ps.mapM Pattern.render = .ok written ∧ List.Forall₂ LineWritten (written.map patternLine) (ps.map unmarked) := by
  induction ps with
  | nil => exact ⟨[], rfl, .nil⟩
  | cons p ps ih =>
    obtain ⟨hp, hps⟩ := List.forall_mem_cons.1 hps
    obtain ⟨written, hwritten, hlines⟩ := ih hps
    obtain ⟨line, hline, hfirst⟩ := line_written hp
    exact ⟨line :: written, by rw [List.mapM_cons, hline, hwritten]; rfl, .cons hfirst hlines⟩

/-- A filter by a call is written before other elements. -/
private theorem BodyWritten.filter {text line : String} {es : List Element} (h : BodyWritten text [] es) (word : String)
    (items : List Skipped) (hitems : skippedFit items)
    (hline : Writes Anything line (.keyword "FILTER" :: .exact .word word :: bracketPieces .paren items))
    (hword : upper word ≠ "NOT" ∧ upper word ≠ "EXISTS") : ∃ es, BodyWritten (line ++ text) [] es := by
  refine ⟨.filter (.call (.word word) items) :: es, fun n => ?_, ?_, ?_, ?_⟩
  · simp [elementReading, Element.reading, h.reading]
  · simpa [elementsFit, Element.Fits, Element.isBlock, Constraint.Fits, hitems, hword] using h.fits
  · simpa [anyAbsence, Element.hasAbsence] using h.absence
  · simpa [elementPieces, Element.pieces, Constraint.pieces, FunctionName.piece] using hline.before h.writes

/-! ### Filters -/

theorem writes_focusVar : Writes Delimited "?POF" [.skipped .var "?POF"] :=
  writes_var focus_shaped fun _ _ => ⟨rfl, rfl⟩

theorem writes_comma {text : String} {ps : List Piece} (h : Writes Anything text ps) :
    Writes Anything ("," ++ (" " ++ text)) (skippedSymbol .comma :: ps) :=
  (writes_skipped .comma (by decide)).before (writes_space.before h)

/-- The start of a line that filters by a call. -/
private theorem writes_call (word : String) (hne : word.toList ≠ []) (hletters : ∀ c ∈ word.toList, c ∈ letters)
    {text : String} {ps : List Piece} (h : Writes Anything text ps) :
    Writes Anything ("  " ++ ("FILTER" ++ (" " ++ (word ++ ("(" ++ text)))))
      (.keyword "FILTER" :: .exact .word word :: skippedSymbol .openParen :: ps) := by
  have hfilter := writes_keyword "FILTER" (by decide) (by decide) (by decide)
  have hname : Writes Delimited word [.exact .word word] := writes_word word hne hletters fun _ _ => ⟨rfl, rfl⟩
  have hopen := (writes_skipped .openParen (by decide)).before h
  have hcall := hname.beforeDelimiter (d := '(') hopen (by simp [Symbol.text]) (by decide)
  exact writes_indent.before (hfilter.beforeDelimiter (d := ' ') (writes_space.before hcall) (by simp) (by decide))

private theorem writes_end : Writes Anything (")" ++ "\n") [skippedSymbol .closeParen] :=
  (writes_skipped .closeParen (by decide)).before writes_newline

/-- The line for the keyword is a filter, if there is a line. -/
theorem BodyWritten.keyword {text : String} {es : List Element} (h : BodyWritten text [] es) (word : Option String) :
    ∃ es, BodyWritten (filterText "  FILTER regex(?POF, \"" "\", \"i\")\n" word ++ text) [] es := by
  unfold filterText
  split
  next t =>
    split
    · exact ⟨es, by simpa using h⟩
    · have hflags := writes_comma (writes_argument "i" writes_end rfl (by decide))
      have hpattern := writes_comma (writes_argument t hflags rfl (by decide))
      have hline := writes_call "regex" (by decide) (by decide)
        (writes_focusVar.beforeDelimiter (d := ',') hpattern (by simp) (by decide))
      have hlineText : "  FILTER regex(?POF, \"" ++ String.ofList (escape t.toList) ++ "\", \"i\")\n" =
          "  " ++ ("FILTER" ++ (" " ++ ("regex" ++ ("(" ++ ("?POF" ++ ("," ++ (" " ++ (inQuotes t ++ ("," ++ (" " ++
            (inQuotes "i" ++ (")" ++ "\n")))))))))))) := by
        simp [String.ext_iff, inQuotes]
        rfl
      rw [hlineText]
      refine h.filter "regex" [.token .var "?POF", .token (.symbol .comma) ",", .token .string (inQuotes t),
        .token (.symbol .comma) ",", .token .string (inQuotes "i")] ?_ ?_ ?_
      · simp [skippedFit, Skipped.Fits, isBracket, Symbol.closing?, Symbol.isClosing]
      · simp only [bracketPieces, Skipped.pieces, skippedPieces]
        exact hline
      · decide
  · exact ⟨es, by simpa using h⟩

/-- The line for the start of the IRIs is a filter, if there is a line. -/
theorem BodyWritten.iriStart {text : String} {es : List Element} (h : BodyWritten text [] es) (start : Option String) :
    ∃ es, BodyWritten (filterText "  FILTER strstarts(str(?POF), \"" "\")\n" start ++ text) [] es := by
  unfold filterText
  split
  next t =>
    split
    · exact ⟨es, by simpa using h⟩
    · have hstart := writes_comma (writes_argument t writes_end rfl (by decide))
      have hclose := (writes_skipped .closeParen (by decide)).before hstart
      have hvar := writes_focusVar.beforeDelimiter (d := ')') hclose (by simp [Symbol.text]) (by decide)
      have hopen := (writes_skipped .openParen (by decide)).before hvar
      have hstr : Writes Delimited "str" [.skipped .word "str"] :=
        writes_word "str" (by decide) (by decide) fun _ _ => ⟨rfl, rfl⟩
      have hline := writes_call "strstarts" (by decide) (by decide)
        (hstr.beforeDelimiter (d := '(') hopen (by simp [Symbol.text]) (by decide))
      have hlineText : "  FILTER strstarts(str(?POF), \"" ++ String.ofList (escape t.toList) ++ "\")\n" =
          "  " ++ ("FILTER" ++ (" " ++ ("strstarts" ++ ("(" ++ ("str" ++ ("(" ++ ("?POF" ++ (")" ++ ("," ++ (" " ++
            (inQuotes t ++ (")" ++ "\n")))))))))))) := by
        simp [String.ext_iff, inQuotes]
      rw [hlineText]
      refine h.filter "strstarts" [.token .word "str", .bracket .paren [.token .var "?POF"], .token (.symbol .comma) ",",
        .token .string (inQuotes t)] ?_ ?_ ?_
      · simp [skippedFit, Skipped.Fits, isBracket, Symbol.closing?, Symbol.isClosing]
      · simp only [bracketPieces, Skipped.pieces, skippedPieces]
        exact hline
      · decide
  · exact ⟨es, by simpa using h⟩

/-! ### What is selected -/

/-- The text is that of something that a query selects. -/
def SelectedWritten (text : String) : Prop := ∃ item : Selected, item.Fits ∧ Writes Delimited text item.pieces

/-- The default projection is cut into what it selects. -/
theorem defaultProjection_written : SelectedWritten defaultProjection :=
  ⟨.var '?' "POF", trivial, writes_var focus_shaped fun _ _ => ⟨rfl, rfl⟩⟩

/-! ### The whole query -/

/-- A recommendation query in abstract form, given what it selects, the elements of its group and its limit. -/
def recommendationPhrase (item : Selected) (es : List Element) (limit : String) : Phrase where
  repetition := .distinct
  selection := .items item []
  group := .braces es
  modifiers := [.limit limit]

/-- What stands before the elements of a recommendation query. -/
theorem recommendationStart_written {projection : String} {item : Selected}
    (hitem : Writes Delimited projection item.pieces) : Writes Anything ("SELECT DISTINCT " ++ projection ++ "\nWHERE \x7b\n")
      ((.keyword "SELECT" :: .keyword "DISTINCT" :: item.pieces) ++ [.keyword "WHERE", symbol .openBrace]) := by
  have hopen : Writes Anything "\x7b" [symbol .openBrace] :=
    writes_symbol .openBrace (by decide) fun _ _ => ⟨rfl, rfl⟩
  have hwhere := (writes_keyword "WHERE" (by decide) (by decide) (by decide)).beforeDelimiter (d := ' ')
    (writes_space.before (hopen.before writes_newline)) (by simp) (by decide)
  have hselected := hitem.beforeDelimiter (d := '\n') (writes_newline.before hwhere) (by simp) (by decide)
  have hdistinct := (writes_keyword "DISTINCT" (by decide) (by decide) (by decide)).beforeDelimiter (d := ' ')
    (writes_space.before hselected) (by simp) (by decide)
  have hall := (writes_keyword "SELECT" (by decide) (by decide) (by decide)).beforeDelimiter (d := ' ')
    (writes_space.before hdistinct) (by simp) (by decide)
  have htext : "SELECT DISTINCT " ++ projection ++ "\nWHERE \x7b\n" =
      "SELECT" ++ (" " ++ ("DISTINCT" ++ (" " ++ (projection ++ ("\n" ++ ("WHERE" ++ (" " ++ ("\x7b" ++ "\n")))))))) := by
    simp [String.ext_iff]
  rw [htext]
  simpa using hall

/-- The text is that of the end of a group and a limit. -/
def EndWritten (text : String) : Prop :=
  ∃ digits, Writes Anything text [symbol .closeBrace, .keyword "LIMIT", .exact .integer digits]

theorem endWritten_of_digits {digits : String} (hne : digits.toList ≠ [])
    (hdigits : ∀ c ∈ digits.toList, c ∈ "0123456789".toList) :
    EndWritten ("\x7d" ++ ("\n" ++ ("LIMIT" ++ (" " ++ (digits ++ "\n"))))) := by
  have hlimit : Writes Delimited digits [.exact .integer digits] :=
    writes_token hne (fun _ hrest => lexeme?_integer hne hdigits hrest) (by simp) fun _ _ => ⟨rfl, rfl⟩
  have hmodifier := (writes_keyword "LIMIT" (by decide) (by decide) (by decide)).beforeDelimiter (d := ' ')
    (writes_space.before (hlimit.beforeDelimiter writes_newline rfl (by decide))) (by simp) (by decide)
  have hclose : Writes Anything "\x7d" [symbol .closeBrace] :=
    writes_symbol .closeBrace (by decide) fun _ _ => ⟨rfl, rfl⟩
  exact ⟨digits, hclose.before (writes_newline.before hmodifier)⟩

/-- The closing brace and the limit are cut into the end of a query. -/
theorem endWritten_default : EndWritten "\x7d\nLIMIT 10\n" := by
  have hdigits : ∀ c ∈ "10".toList, c ∈ "0123456789".toList := by decide
  have hend := endWritten_of_digits (by decide) hdigits
  have htext : "\x7d" ++ ("\n" ++ ("LIMIT" ++ (" " ++ ("10" ++ "\n")))) = "\x7d\nLIMIT 10\n" := by decide
  rwa [htext] at hend

/-- A text that is put together as a recommendation query is read as the patterns of its body. -/
theorem parse_recommendation {projection body ending : String} {ps : List Pattern} {es : List Element}
    (hprojection : SelectedWritten projection) (hbody : BodyWritten body ps es) (hending : EndWritten ending) :
    ∃ reread, parse ("SELECT DISTINCT " ++ projection ++ "\nWHERE \x7b\n" ++ body ++ ending).toList = .ok reread ∧
      reread.patterns = ps := by
  obtain ⟨item, hitem, hselected⟩ := hprojection
  obtain ⟨limit, hlimit⟩ := hending
  have hwrites := ((recommendationStart_written hselected).before hbody.writes).before hlimit
  have hpieces : (.keyword "SELECT" :: .keyword "DISTINCT" :: item.pieces) ++ [.keyword "WHERE", symbol .openBrace] ++
      elementPieces es ++ [symbol .closeBrace, .keyword "LIMIT", .exact .integer limit] =
      (recommendationPhrase item es limit).pieces := by
    simp [recommendationPhrase, Phrase.pieces, Repetition.pieces, Selection.pieces, Group.pieces, Modifier.pieces]
  rw [hpieces] at hwrites
  -- the text holds no point of focus, so the group holds none
  have hmarkers : markers (recommendationPhrase item es limit).group.pieces = 0 := by
    have hnone := hwrites.yields.markers
    simp only [Phrase.pieces, markers, List.countP_append] at hnone ⊢
    omega
  have hfits : (recommendationPhrase item es limit).Fits :=
    { declarations := by simp [recommendationPhrase]
      selection := ⟨hitem, by simp⟩
      datasets := by simp [recommendationPhrase]
      group := by
        show Group.Fits noLabels (.braces es)
        rw [Group.Fits]
        exact hbody.fits
      modifiers := by simp [recommendationPhrase, Modifier.Fits]
      markers := by omega }
  have habsence : (recommendationPhrase item es limit).group.hasAbsence = false := by
    rw [recommendationPhrase, Group.hasAbsence]
    exact hbody.absence
  obtain ⟨reread, hparse, hread⟩ := parse_of_yields hfits habsence hwrites.yields
  refine ⟨reread, hparse, ?_⟩
  rw [hread, Phrase.patterns, recommendationPhrase, Group.reading]
  exact congrArg Reading.patterns (hbody.reading 0)

/-- The text of a recommendation query is read as the patterns that it was written from. -/
theorem recommendationText_reread {s : Scope} (hprojection : SelectedWritten s.projection)
    (hpatterns : ∀ p ∈ s.patterns, Legible p) : ∃ written reread, s.patterns.mapM Pattern.render = .ok written ∧
      parse (recommendationText s written).toList = .ok reread ∧ reread.patterns = s.patterns.map unmarked := by
  obtain ⟨_, hiris⟩ := BodyWritten.nil.iriStart s.iriStart
  obtain ⟨_, hfilters⟩ := hiris.keyword s.keyword
  obtain ⟨written, hwritten, hlines⟩ := lines_written hpatterns
  obtain ⟨_, hbody⟩ := hfilters.lines hlines
  obtain ⟨reread, hparse, hread⟩ := parse_recommendation hprojection hbody endWritten_default
  refine ⟨written, reread, hwritten, ?_, hread⟩
  unfold recommendationText
  simpa only [String.append_assoc, String.append_empty] using hparse

end PointOfFocus.Query
