import PointOfFocus.Proofs.Query.Rereading
import PointOfFocus.Proofs.Scope.Solutions

/-!
# The projection of a path

The projection of a path is the text of a call whose arguments are the variables of the hops, the brackets around them
and the slashes between them. Its tokens are those of an expression that a query selects (`pathProjection_written`).
Where the variables have IRIs for their values, the call puts together the IRIs in angle brackets with slashes between
them (`projected?_pathProjection`).
-/

namespace PointOfFocus

open PointOfFocus.Rdf

/-- The text of a value: an IRI stands for its name, and nothing is said of the label of a node. -/
def Rdf.Value.text? : Value → Option String
  | .iri name => some name
  | .literal l => some l.lexical
  | .node _ => none

namespace Query

open PointOfFocus.Number (integerText)
open PointOfFocus.Text
open Phrase

/-! ### Hops -/

/-- The variables of a path, in angle brackets and with slashes between them. -/
def hopsText (hops : List String) : String :=
  ", \" / \", ".intercalate (hops.map fun x => "\"<\", ?" ++ x ++ ", \">\"")

/-- The tokens for a hop of a path. -/
def hopItems (x : String) : List Skipped :=
  [.token .string (inQuotes "<"), .token (.symbol .comma) ",", .token .var ("?" ++ x), .token (.symbol .comma) ",",
    .token .string (inQuotes ">")]

/-- A hop of a path is written as three arguments. -/
private theorem hop_written {x : String} (hx : IsVarName x) {text : String} {ps : List Piece}
    (h : Writes Anything text ps) {d : Char} (hstart : text.toList.head? = some d) (hd : d ≠ '"') :
    Writes Anything ("\"<\", ?" ++ x ++ ", \">\"" ++ text) (skippedPieces (hopItems x) ++ ps) := by
  have hclose := writes_comma (writes_argument ">" h hstart hd)
  have hvar : Writes Delimited ("?" ++ x) [.skipped .var ("?" ++ x)] := writes_var hx fun _ _ => ⟨rfl, rfl⟩
  have hname := writes_comma (hvar.beforeDelimiter (d := ',') hclose (by simp) (by decide))
  have hhop := writes_argument "<" (d := ',') hname (by simp) (by decide)
  have htext : "\"<\", ?" ++ x ++ ", \">\"" ++ text =
      inQuotes "<" ++ ("," ++ (" " ++ ("?" ++ x ++ ("," ++ (" " ++ (inQuotes ">" ++ text)))))) := by
    simp [String.ext_iff, inQuotes]
    rfl
  rw [htext]
  simp only [hopItems, skippedPieces, Skipped.pieces]
  exact hhop

private theorem hopItems_fit (x : String) {items : List Skipped} (h : skippedFit items) :
    skippedFit (hopItems x ++ items) := by
  simpa [hopItems, skippedFit, Skipped.Fits, isBracket, Symbol.closing?, Symbol.isClosing] using h

/-- The tokens for the hops of a path. -/
def pathItems : List String → List Skipped
  | [] => []
  | [x] => hopItems x
  | x :: y :: xs =>
    hopItems x ++ .token (.symbol .comma) "," :: .token .string (inQuotes " / ") :: .token (.symbol .comma) "," ::
      pathItems (y :: xs)

private theorem pathItems_fit (xs : List String) : skippedFit (pathItems xs) := by
  have hnone : skippedFit [] := by rw [skippedFit]; trivial
  fun_induction pathItems xs with
  | case1 => exact hnone
  | case2 x => simpa using hopItems_fit x hnone
  | case3 x y xs ih =>
    refine hopItems_fit x ?_
    simpa [skippedFit, Skipped.Fits, isBracket, Symbol.closing?, Symbol.isClosing] using ih

/-- The hops of a path are written as the arguments of a call. -/
private theorem hops_written {xs : List String} (hxs : ∀ x ∈ xs, IsVarName x) {text : String} {ps : List Piece}
    (h : Writes Anything text ps) {d : Char} (hstart : text.toList.head? = some d) (hd : d ≠ '"') :
    Writes Anything (hopsText xs ++ text) (skippedPieces (pathItems xs) ++ ps) := by
  fun_induction pathItems xs with
  | case1 => simpa [hopsText, skippedPieces] using h
  | case2 x => simpa [hopsText] using hop_written (hxs x (by simp)) h hstart hd
  | case3 x y xs ih =>
    obtain ⟨hx, hxs⟩ := List.forall_mem_cons.1 hxs
    have hslash := writes_comma (writes_argument " / " (d := ',') (writes_comma (ih hxs)) (by simp) (by decide))
    have hall := hop_written hx (d := ',') hslash (by simp) (by decide)
    have htext : hopsText (x :: y :: xs) = "\"<\", ?" ++ x ++ ", \">\"" ++
        ("," ++ (" " ++ (inQuotes " / " ++ ("," ++ (" " ++ hopsText (y :: xs)))))) := by
      rw [hopsText, List.map_cons, String.intercalate_cons_of_ne_nil (by simp), hopsText]
      simp [String.ext_iff, inQuotes]
      rfl
    rw [htext]
    simp only [hopItems, List.cons_append, List.nil_append, skippedPieces, Skipped.pieces] at hall ⊢
    simpa [String.append_assoc, skippedSymbol, Symbol.text] using hall

theorem hop_shaped (n : Nat) : IsVarName ("POF" ++ n.repr) := by
  refine ⟨by simp, fun c hc => ?_⟩
  rw [String.toList_append] at hc
  rcases List.mem_append.1 hc with hc | hc
  · exact focus_shaped.2 c hc
  · exact isVarChar_of_mem_repr hc

/-! ### The projection -/

/-- The names of the variables for the hops of a path. -/
def hopVariables (length : Int) : List String := (countTo length).map fun i => "POF" ++ integerText i

private theorem hopVariables_shaped (length : Int) : ∀ x ∈ hopVariables length, IsVarName x := by
  intro x hx
  obtain ⟨i, hi, rfl⟩ := List.mem_map.1 hx
  obtain ⟨n, -, rfl⟩ := List.mem_map.1 hi
  exact hop_shaped (n + 1)

/-- The tokens between the parentheses of the projection of a path. -/
def projectionItems (length : Int) : List Skipped :=
  [.token .word "concat", .bracket .paren (pathItems (hopVariables length)), .token .word "as", .token .var "?POF"]

/-- The projection of a path puts the variables of its hops together. -/
private theorem writes_pathProjection (length : Int) :
    Writes Anything (pathProjection length) (bracketPieces .paren (projectionItems length)) := by
  have hvar := writes_focusVar.beforeDelimiter (writes_skipped .closeParen (by decide)) rfl (by decide)
  have has : Writes Delimited "as" [.skipped .word "as"] :=
    writes_word "as" (by decide) (by decide) fun _ _ => ⟨rfl, rfl⟩
  have hname := writes_space.before (has.beforeDelimiter (d := ' ') (writes_space.before hvar) (by simp) (by decide))
  have hclose := (writes_skipped .closeParen (by decide)).before hname
  have hitems := hops_written (hopVariables_shaped length) hclose rfl (by decide)
  have hopen := (writes_skipped .openParen (by decide)).before hitems
  have hconcat : Writes Delimited "concat" [.skipped .word "concat"] :=
    writes_word "concat" (by decide) (by decide) fun _ _ => ⟨rfl, rfl⟩
  have hall := (writes_skipped .openParen (by decide)).before
    (hconcat.beforeDelimiter (d := '(') hopen (by simp [Symbol.text]) (by decide))
  have htext : pathProjection length = "(" ++ ("concat" ++ ("(" ++ (hopsText (hopVariables length) ++
      (")" ++ (" " ++ ("as" ++ (" " ++ ("?POF" ++ ")")))))))) := by
    have hhops : (countTo length).map (fun i => "\"<\", ?POF" ++ integerText i ++ ", \">\"") =
        (hopVariables length).map fun x => "\"<\", ?" ++ x ++ ", \">\"" := by
      rw [hopVariables, List.map_map]
      refine List.map_congr_left fun i _ => ?_
      simp [String.ext_iff]
    rw [pathProjection, hhops, ← hopsText]
    simp [String.ext_iff]
  rw [htext, bracketPieces]
  simp only [projectionItems, skippedPieces, Skipped.pieces]
  simpa [Symbol.text, Bracket.opening, Bracket.closing] using hall

/-- The projection of a path is cut into what it selects. -/
theorem pathProjection_written (length : Int) : SelectedWritten (pathProjection length) := by
  refine ⟨.expression (projectionItems length), ?_, (writes_pathProjection length).mono fun _ _ => trivial⟩
  simpa [Selected.Fits, projectionItems, skippedFit, Skipped.Fits] using pathItems_fit (hopVariables length)

/-! ### Calls that put texts together -/

/-- What a token is and its text, wherever it stands. -/
def Token.content (t : Token) : Kind × String := (t.kind, t.text)

/-- The text that an argument of a call stands for: a quoted text for itself, a variable for the text of its value. -/
def argument? (μ : Assignment) : Kind × String → Option String
  | (.string, text) => (quotedText text).toOption
  | (.var, text) => (Term.named text).value? μ >>= Rdf.Value.text?
  | _ => none

/-- The texts of arguments with commas between them, put together, and what follows the parenthesis that closes them. -/
def concatenated? (μ : Assignment) : List (Kind × String) → Option (String × List (Kind × String))
  | argument :: (.symbol .closeParen, _) :: after => do return (← argument? μ argument, after)
  | argument :: (.symbol .comma, _) :: more => do
    let text ← argument? μ argument
    let (others, after) ← concatenated? μ more
    return (text ++ others, after)
  | _ => none

/-- The variable that `(concat(…) as ?x)` gives a value to, with the value. -/
def binding? (μ : Assignment) : List (Kind × String) → Option (Term × String)
  | (.symbol .openParen, _) :: (.word, function) :: (.symbol .openParen, _) :: arguments => do
    let (text, [(.word, link), (.var, x), (.symbol .closeParen, _)]) ← concatenated? μ arguments | none
    if upper function = "CONCAT" ∧ upper link = "AS" then some (Term.named x, text) else none
  | _ => none

/-- The variable that the text of a projection gives a value to, with the value. -/
def projected? (μ : Assignment) (text : String) : Option (Term × String) := do
  binding? μ ((← (tokens text.toList).toOption).map Token.content)

/-! ### Tokens of skipped parts -/

/-- What a token of the piece is and a text that it has. -/
def Phrase.Piece.content : Piece → Kind × String
  | .exact kind text => (kind, text)
  | .skipped kind text => (kind, text)
  | .keyword word => (.word, word)
  | .truth value => (.word, truthWord value)

mutual

private theorem isSkipped_of_mem : ∀ item : Skipped, ∀ p ∈ item.pieces, ∃ kind text, p = .skipped kind text
  | .token kind text => by simp [Skipped.pieces]
  | .bracket shape items => by
    have hitems := isSkipped_of_mem_items items
    simpa [Skipped.pieces, skippedSymbol, or_imp, forall_and] using hitems

private theorem isSkipped_of_mem_items :
    ∀ items : List Skipped, ∀ p ∈ skippedPieces items, ∃ kind text, p = .skipped kind text
  | [] => by simp [skippedPieces]
  | item :: items => by
    have hitem := isSkipped_of_mem item
    have hitems := isSkipped_of_mem_items items
    simpa [skippedPieces, or_imp, forall_and] using ⟨hitem, hitems⟩

end

private theorem map_content {ps : List Piece} {ts : List Token} (h : List.Forall₂ Piece.Matches ps ts)
    (hps : ∀ p ∈ ps, ∃ kind text, p = .skipped kind text) : ts.map Token.content = ps.map Piece.content := by
  induction h with
  | nil => rfl
  | @cons p t ps ts hmatches _ ih =>
    obtain ⟨⟨kind, text, rfl⟩, hrest⟩ := List.forall_mem_cons.1 hps
    rw [List.map_cons, List.map_cons, ih hrest, Token.content, hmatches.1, hmatches.2, Piece.content]

/-! ### What the projection stands for -/

private theorem argument?_inQuotes (μ : Assignment) (text : String) :
    argument? μ (.string, inQuotes text) = some text := by
  rw [argument?, inQuotes, quotedText_escape]
  rfl

private theorem argument?_var (μ : Assignment) (x : String) :
    argument? μ (.var, "?" ++ x) = (Term.var x).value? μ >>= Rdf.Value.text? := by
  have hbare : Term.bareName ("?" ++ x) = x := by simp [Term.bareName]
  rw [argument?, Term.named, hbare]

private theorem skippedPieces_append (items more : List Skipped) :
    skippedPieces (items ++ more) = skippedPieces items ++ skippedPieces more := by
  induction items with
  | nil => rw [List.nil_append, skippedPieces, List.nil_append]
  | cons item items ih => rw [List.cons_append, skippedPieces, skippedPieces, ih, List.append_assoc]

section

variable {μ : Assignment} {x iri : String} {rest after : List (Kind × String)}

/-- The last hop stands for its IRI in angle brackets. -/
private theorem concatenated?_lastHop (h : (Term.var x).value? μ = some (.iri iri)) (close : String) :
    concatenated? μ ((skippedPieces (hopItems x)).map Piece.content ++ (.symbol .closeParen, close) :: after) =
      some ("<" ++ iri ++ ">", after) := by
  simp [hopItems, skippedPieces, Skipped.pieces, Piece.content, concatenated?, argument?_inQuotes, argument?_var, h,
    Rdf.Value.text?, String.append_assoc]

/-- A hop before further arguments stands for its IRI in angle brackets, and what these stand for comes after it. -/
private theorem concatenated?_hop (h : (Term.var x).value? μ = some (.iri iri)) (comma others : String)
    (hothers : concatenated? μ rest = some (others, after)) :
    concatenated? μ ((skippedPieces (hopItems x)).map Piece.content ++ (.symbol .comma, comma) :: rest) =
      some ("<" ++ iri ++ ">" ++ others, after) := by
  simp [hopItems, skippedPieces, Skipped.pieces, Piece.content, concatenated?, argument?_inQuotes, argument?_var, h,
    Rdf.Value.text?, hothers, String.append_assoc]

/-- The arguments for the hops of a path stand for its IRIs, in angle brackets and with slashes between them. -/
private theorem concatenated?_path {xs iris : List String}
    (h : List.Forall₂ (fun x iri => (Term.var x).value? μ = some (.iri iri)) xs iris) (hne : xs ≠ []) (close : String) :
    concatenated? μ ((skippedPieces (pathItems xs)).map Piece.content ++ (.symbol .closeParen, close) :: after) =
      some (" / ".intercalate (iris.map fun iri => "<" ++ iri ++ ">"), after) := by
  induction h with
  | nil => exact absurd rfl hne
  | @cons x iri xs iris hx hxs ih =>
    cases hxs with
    | nil => simpa [pathItems] using concatenated?_lastHop hx close
    | @cons y next xs iris hy hxs =>
      -- the slash is an argument of its own between the hops
      have hslash : concatenated? μ ((.string, inQuotes " / ") :: (.symbol .comma, ",") ::
          ((skippedPieces (pathItems (y :: xs))).map Piece.content ++ (.symbol .closeParen, close) :: after)) =
            some (" / " ++ " / ".intercalate ((next :: iris).map fun iri => "<" ++ iri ++ ">"), after) := by
        rw [concatenated?, argument?_inQuotes, ih (by simp)]
        rfl
      have hhop := concatenated?_hop hx "," _ hslash
      rw [List.map_cons, String.intercalate_cons_of_ne_nil (by simp), String.append_assoc, pathItems,
        skippedPieces_append, List.map_append, List.append_assoc]
      simpa only [skippedPieces, Skipped.pieces, List.map_cons, List.cons_append, List.nil_append, Piece.content]
        using hhop

end

/-- Where the variables for the hops of a path have IRIs for their values, the projection of the path gives the point of
focus the IRIs in angle brackets, with slashes between them. -/
theorem projected?_pathProjection {μ : Assignment} {iris : List String} {length : Int} (hlength : 0 < length)
    (h : (countTo length).map (fun i => (Term.hop i).value? μ) = iris.map fun iri => some (.iri iri)) :
    projected? μ (pathProjection length) =
      some (.focus, " / ".intercalate (iris.map fun iri => "<" ++ iri ++ ">")) := by
  obtain ⟨ts, htokens, hmatches⟩ := (writes_pathProjection length).yields.tokens
  have hcontent := map_content hmatches (isSkipped_of_mem (.bracket .paren (projectionItems length)))
  have hvalues : List.Forall₂ (fun x iri => (Term.var x).value? μ = some (.iri iri)) (hopVariables length) iris := by
    rw [hopVariables, List.forall₂_map_left_iff]
    rw [← List.forall₂_eq_eq_eq, List.forall₂_map_left_iff, List.forall₂_map_right_iff] at h
    exact h
  have hne : hopVariables length ≠ [] := by
    intro hnone
    have hzero := congrArg List.length hnone
    rw [hopVariables, countTo, List.length_map, List.length_map, List.length_range, List.length_nil] at hzero
    omega
  let after : List (Kind × String) := [(.word, "as"), (.var, "?POF"), (.symbol .closeParen, ")")]
  have hpath : concatenated? μ ((skippedPieces (pathItems (hopVariables length))).map Piece.content ++
      (.symbol .closeParen, ")") :: after) = some (_, after) := concatenated?_path hvalues hne ")"
  have hupper : upper "concat" = "CONCAT" ∧ upper "as" = "AS" := by decide
  have hfocus : Term.named "?POF" = .focus := rfl
  -- nothing but the hops between the brackets depends on the length
  rw [projected?, htokens]
  show binding? μ (ts.map Token.content) = _
  rw [hcontent]
  simp only [bracketPieces, projectionItems, Skipped.pieces, skippedPieces, skippedSymbol, Bracket.opening,
    Bracket.closing, Symbol.text, List.map_cons, List.map_append, List.map_nil, List.cons_append, List.nil_append,
    List.append_assoc, Piece.content, binding?, after] at hpath ⊢
  simp [hpath, hupper, hfocus]

end Query

end PointOfFocus
