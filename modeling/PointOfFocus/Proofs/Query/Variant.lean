import PointOfFocus.Query.Parse

/-!
# Variants of a token sequence

Two token sequences are variants of each other if they differ in nothing but the contents of brackets that are skipped
(`Variant`), and in where their tokens stand. Whether a bracket is skipped can be told from the tokens before it: it is
an expression that is selected, the constraint of a filter, the expression of a binding, or a part of a block of values.
These tokens lead to a place (`Place.after`), and the place tells which bracket is skipped there and to which place the
bracket leads (`Place.skips?`).

Skipping the brackets at the head of two variants leads to variants again, whether the contents of these brackets differ
or not (`afterBrackets_variant`).
-/

namespace PointOfFocus.Query

/-! ### Balanced contents -/

/-- Whether the token is a bracket. -/
def Token.isBracket (t : Token) : Bool :=
  match t.kind with
  | .symbol x => x.closing?.isSome || x.isClosing
  | _ => false

/-- The brackets among the tokens match. -/
inductive Balanced : List Token → Prop
  | nil : Balanced []
  | token {t : Token} {ts : List Token} (ht : t.isBracket = false) (hts : Balanced ts) : Balanced (t :: ts)
  | bracket {opening closing : Token} {x : Symbol} {inner rest : List Token} (hopening : opening.closing? = some x)
    (hclosing : closing.kind = .symbol x) (hinner : Balanced inner) (hrest : Balanced rest) :
    Balanced (opening :: inner ++ closing :: rest)

/-- A token is no bracket, or it opens one, or it closes one. -/
theorem Token.bracket_cases (t : Token) : t.isBracket = false ∨ (∃ x, t.closing? = some x) ∨
    ∃ x, t.kind = .symbol x ∧ x.closing? = none ∧ x.isClosing = true := by
  unfold Token.isBracket Token.closing?
  cases t.kind with
  | symbol x =>
    cases hclosing : x.closing? with
    | some y => exact .inr (.inl ⟨y, hclosing⟩)
    | none =>
      cases hcloses : x.isClosing with
      | false => exact .inl (by simp [hclosing, hcloses])
      | true => exact .inr (.inr ⟨x, rfl, hclosing, hcloses⟩)
  | _ => exact .inl rfl

/-- A token that opens a bracket is a symbol that does. -/
theorem Token.kind_of_closing? {t : Token} {x : Symbol} (h : t.closing? = some x) :
    ∃ y, t.kind = .symbol y ∧ y.closing? = some x := by
  unfold Token.closing? at h
  split at h
  next y hkind => exact ⟨y, hkind, h⟩
  next => cases h

/-- The symbol that closes a bracket is a closing one. -/
theorem isClosing_of_closing? {x y : Symbol} (h : x.closing? = some y) : y.isClosing = true := by
  cases x <;> cases h <;> rfl

/-- A closing bracket opens nothing. -/
theorem closing?_of_isClosing {x : Symbol} (h : x.isClosing = true) : x.closing? = none := by
  cases x <;> first | rfl | cases h

section

variable {opening : Token} {awaited : Symbol} {outer : List Symbol} {rest : List Token}

/-- A token that is no bracket is skipped inside of one. -/
theorem afterBrackets_plain {t : Token} (h : t.isBracket = false) (hawaited : awaited.isClosing = true) :
    afterBrackets opening (awaited :: outer) (t :: rest) = afterBrackets opening (awaited :: outer) rest := by
  unfold Token.isBracket at h
  rw [afterBrackets]
  split
  next x hkind =>
    simp only [hkind, Bool.or_eq_false_iff, Option.isSome_eq_false_iff, Option.isNone_iff_eq_none] at h
    have hne : x ≠ awaited := fun heq => by simp [heq, hawaited] at h
    simp [h.1, h.2, hne]
  next => rfl

/-- A bracket that opens inside of another is awaited to close first. -/
theorem afterBrackets_opening {t : Token} {x : Symbol} (h : t.closing? = some x) :
    afterBrackets opening (awaited :: outer) (t :: rest) = afterBrackets opening (x :: awaited :: outer) rest := by
  obtain ⟨y, hkind, hy⟩ := Token.kind_of_closing? h
  simp only [afterBrackets, hkind, hy]

/-- The awaited bracket closes the innermost one. -/
theorem afterBrackets_closing {t : Token} (h : t.kind = .symbol awaited) (hawaited : awaited.isClosing = true) :
    afterBrackets opening (awaited :: outer) (t :: rest) = afterBrackets opening outer rest := by
  simp only [afterBrackets, h, closing?_of_isClosing hawaited, ↓reduceIte]

/-- Balanced tokens are skipped as a whole. -/
theorem afterBrackets_balanced {ts : List Token} (h : Balanced ts) (hawaited : awaited.isClosing = true) :
    afterBrackets opening (awaited :: outer) (ts ++ rest) = afterBrackets opening (awaited :: outer) rest := by
  induction h generalizing awaited outer rest with
  | nil => rfl
  | token ht _ ih => rw [List.cons_append, afterBrackets_plain ht hawaited, ih hawaited]
  | bracket hopening hclosing _ _ ihinner ihrest =>
    obtain ⟨_, _, hx⟩ := Token.kind_of_closing? hopening
    have hcloses := isClosing_of_closing? hx
    rw [List.append_assoc, List.cons_append, List.cons_append, afterBrackets_opening hopening, ihinner hcloses,
      afterBrackets_closing hclosing hcloses, ihrest hawaited]

/-- Balanced contents are skipped with the bracket that closes them. -/
theorem afterBrackets_contents {ts : List Token} (h : Balanced ts) {closing : Token}
    (hclosing : closing.kind = .symbol awaited) (hawaited : awaited.isClosing = true) :
    afterBrackets opening (awaited :: outer) (ts ++ closing :: rest) = afterBrackets opening outer rest := by
  rw [afterBrackets_balanced h hawaited, afterBrackets_closing hclosing hawaited]

end

/-! ### Places -/

/-- What the tokens so far say about a bracket that comes next. -/
inductive Place where
  /-- No bracket is skipped. -/
  | other
  /-- Among the variables and expressions that are selected. -/
  | projection
  /-- After the keyword of a filter. -/
  | filter
  /-- After the first word of a negated test for existence. -/
  | negation
  /-- After both words of a negated test for existence. -/
  | denial
  /-- After the keyword of a block of values. -/
  | values
  /-- Before parentheses: after the keyword of a binding or the name of a function. -/
  | parens
  /-- Before braces: after the keyword of a test for existence or the variables of a block of values. -/
  | braces
deriving DecidableEq

namespace Place

/-- The place after a token. -/
def after (p : Place) (t : Token) : Place :=
  match p with
  | .other =>
    if t.isKeyword ["SELECT"] then .projection
    else if t.isKeyword ["FILTER"] then .filter
    else if t.isKeyword ["BIND"] then .parens
    else if t.isKeyword ["VALUES"] then .values
    else .other
  | .projection => if t.kind = .var || t.isKeyword ["DISTINCT", "REDUCED"] then .projection else .other
  | .filter =>
    if t.isKeyword ["NOT"] then .negation
    else if t.isKeyword ["EXISTS"] then .braces
    else if t.isFunctionName then .parens
    else .other
  | .negation => if t.isKeyword ["EXISTS"] then .denial else .other
  | .denial => if t.isKeyword ["EXISTS"] then .braces else if t.isFunctionName then .parens else .other
  | .values => if t.kind = .var then .braces else .other
  | .parens | .braces => .other

/-- The place after the brackets that a token of the kind opens, if they are skipped. -/
def skips? (p : Place) (kind : Kind) : Option Place :=
  match p, kind with
  | .projection, .symbol .openParen => some .projection
  | .filter, .symbol .openParen => some .other
  | .parens, .symbol .openParen => some .other
  | .values, .symbol .openParen => some .braces
  | .denial, .symbol .openBrace => some .other
  | .braces, .symbol .openBrace => some .other
  | _, _ => none

/-- No place but an open one comes after a symbol. -/
theorem after_symbol (p : Place) {t : Token} {x : Symbol} (h : t.kind = .symbol x) : p.after t = .other := by
  cases p <;> simp [after, Token.isKeyword, Token.isFunctionName, h]

/-- Only opening brackets are skipped. -/
theorem skips?_of_closing? (p : Place) {t : Token} (h : t.closing? = none) : p.skips? t.kind = none := by
  unfold skips?
  split
  all_goals first | rfl | simp_all [Token.closing?, Symbol.closing?]

end Place

/-- The keywords that can lead to a bracket that is skipped. -/
def skippingKeywords : List String := ["SELECT", "FILTER", "BIND", "VALUES"]

/-- Only some keywords lead from an open place to brackets whose contents may differ. -/
theorem Place.after_other {t : Token} (h : t.isKeyword skippingKeywords = false) : Place.other.after t = .other := by
  simp only [skippingKeywords, Token.isKeyword, Bool.and_eq_false_imp, decide_eq_true_eq, List.contains_eq_mem,
    List.mem_cons, List.not_mem_nil, or_false, decide_eq_false_iff_not, not_or] at h
  by_cases hword : t.kind = .word
  · simp [Place.after, Token.isKeyword, h hword]
  · simp [Place.after, Token.isKeyword, hword]

theorem Place.after_kind {t : Token} (h : t.kind ≠ .word) : Place.other.after t = .other :=
  after_other (by simp [Token.isKeyword, h])

theorem isKeyword_disjoint {t : Token} {words others : List String} (h : t.isKeyword words = true)
    (hdisjoint : ∀ word ∈ words, word ∉ others) : t.isKeyword others = false := by
  simp only [Token.isKeyword, Bool.and_eq_true, decide_eq_true_eq, List.contains_iff_mem] at h
  simp [Token.isKeyword, h.1, hdisjoint _ h.2]

theorem Place.after_keyword {t : Token} {words : List String} (h : t.isKeyword words = true)
    (hdisjoint : ∀ word ∈ words, word ∉ skippingKeywords) : Place.other.after t = .other :=
  after_other (isKeyword_disjoint h hdisjoint)

private theorem isKeyword_singleton {t : Token} {word : String} (h : t.isKeyword [word] = true) :
    t.kind = .word ∧ Text.upper t.text = word := by
  simpa [Token.isKeyword] using h

theorem Place.after_select {t : Token} (h : t.isKeyword ["SELECT"] = true) : Place.other.after t = .projection := by
  simp [Place.after, h]

theorem Place.after_filter {t : Token} (h : t.isKeyword ["FILTER"] = true) : Place.other.after t = .filter := by
  simp [Place.after, Token.isKeyword, isKeyword_singleton h]

theorem Place.after_bind {t : Token} (h : t.isKeyword ["BIND"] = true) : Place.other.after t = .parens := by
  simp [Place.after, Token.isKeyword, isKeyword_singleton h]

theorem Place.after_values {t : Token} (h : t.isKeyword ["VALUES"] = true) : Place.other.after t = .values := by
  simp [Place.after, Token.isKeyword, isKeyword_singleton h]

/-! ### Variants -/

/-- The tokens are the same, but for where they stand. -/
structure Token.Like (t t' : Token) : Prop where
  kind : t'.kind = t.kind
  text : t'.text = t.text

namespace Token.Like

variable {t t' : Token} (h : t.Like t')
include h

theorem isKeyword (words : List String) : t'.isKeyword words = t.isKeyword words := by
  simp only [Token.isKeyword, h.kind, h.text]

theorem isTruth : t'.isTruth = t.isTruth := by simp only [Token.isTruth, h.kind, h.text]

theorem startsObject : t'.startsObject = t.startsObject := by simp only [Token.startsObject, h.kind, h.isTruth]

theorem startsVerb : t'.startsVerb = t.startsVerb := by simp only [Token.startsVerb, h.kind, h.text]

theorem endsTriples : t'.endsTriples = t.endsTriples := by simp only [Token.endsTriples, h.kind, h.isKeyword]

theorem isRepetition : t'.isRepetition = t.isRepetition := by simp only [Token.isRepetition, h.kind]

theorem isFunctionName : t'.isFunctionName = t.isFunctionName := by simp only [Token.isFunctionName, h.kind]

theorem closing? : t'.closing? = t.closing? := by simp only [Token.closing?, h.kind]

private theorem isBracket : t'.isBracket = t.isBracket := by simp only [Token.isBracket, h.kind]

end Token.Like

/-- The token sequences are the same from the place on, but for the contents of brackets that are skipped and for where
the tokens stand. -/
inductive Variant : Place → List Token → List Token → Prop
  | nil (p : Place) : Variant p [] []
  | token {p : Place} {t t' : Token} {ts ts' : List Token} (ht : t.Like t') (hts : Variant (p.after t) ts ts') :
    Variant p (t :: ts) (t' :: ts')
  | bracket {p q : Place} {opening opening' closing closing' : Token} {x : Symbol} {inner inner' ts ts' : List Token}
    (hskips : p.skips? opening.kind = some q) (hopening : opening.Like opening') (hx : opening.closing? = some x)
    (hclosing : closing.kind = .symbol x) (hclosing' : closing'.kind = .symbol x) (hinner : Balanced inner)
    (hinner' : Balanced inner') (hts : Variant q ts ts') :
    Variant p (opening :: inner ++ closing :: ts) (opening' :: inner' ++ closing' :: ts')

/-- Tokens may stand before variants. -/
theorem Variant.before {p : Place} {us us' : List Token} (ts : List Token)
    (h : Variant (ts.foldl Place.after p) us us') : Variant p (ts ++ us) (ts ++ us') := by
  induction ts generalizing p with
  | nil => exact h
  | cons t ts ih => exact .token ⟨rfl, rfl⟩ (ih h)

/-- The first tokens of variants are alike. -/
theorem Variant.head {p : Place} {ts ts' : List Token} (h : Variant p ts ts') {last last' : Token}
    (hlast : last.Like last') : (ts.headD last).Like (ts'.headD last') := by
  cases h with
  | nil => exact hlast
  | token ht => exact ht
  | bracket _ hopening => exact hopening

/-- What follows the token at hand are variants, unless it opens a bracket that is skipped. -/
theorem Variant.tail {p : Place} {ts ts' : List Token} (h : Variant p ts ts') {last : Token}
    (hplain : p.skips? (ts.headD last).kind = none) : Variant (p.after (ts.headD last)) ts.tail ts'.tail := by
  cases h with
  | nil => exact .nil _
  | token _ hts => exact hts
  | bracket hskips => simp [hskips] at hplain

/-- Semicolons lead to no bracket. -/
theorem Variant.dropSemicolons {ts ts' : List Token} (h : Variant .other ts ts') :
    Variant .other (ts.dropWhile (·.kind = .symbol .semicolon)) (ts'.dropWhile (·.kind = .symbol .semicolon)) := by
  induction ts generalizing ts' with
  | nil => cases h; exact .nil _
  | cons t ts ih =>
    cases h with
    | @token _ _ t' _ ts' ht hts =>
      by_cases hkind : t.kind = .symbol .semicolon
      · rw [Place.after_symbol _ hkind] at hts
        simpa [hkind, ht.kind] using ih hts
      · simpa [hkind, ht.kind] using Variant.token ht hts
    | bracket hskips => cases hskips

/-! ### Skipping -/

/-- Skipping the brackets that are open stops in both sequences, or it leads to variants in both. -/
theorem afterBrackets_variant {p : Place} {ts ts' : List Token} (h : Variant p ts ts') {awaited : Symbol}
    {outer : List Symbol} (hawaited : ∀ x ∈ awaited :: outer, x.isClosing = true) (opening opening' : Token) :
    (∃ rest rest', afterBrackets opening (awaited :: outer) ts = .ok rest ∧
      afterBrackets opening' (awaited :: outer) ts' = .ok rest' ∧ Variant .other rest rest') ∨
    ∃ e e', afterBrackets opening (awaited :: outer) ts = .error e ∧
      afterBrackets opening' (awaited :: outer) ts' = .error e' := by
  -- both runs await the same brackets all the time, so the induction is over every stack of them
  induction h generalizing awaited outer with
  | nil => exact .inr ⟨_, _, rfl, rfl⟩
  | @token p t t' ts ts' ht hts ih =>
    obtain hplain | ⟨x, hopens⟩ | ⟨x, hkind, hnone, hcloses⟩ := t.bracket_cases
    · have hfirst := hawaited awaited List.mem_cons_self
      rw [afterBrackets_plain hplain hfirst, afterBrackets_plain (ht.isBracket.trans hplain) hfirst]
      exact ih hawaited
    · obtain ⟨_, _, hx⟩ := Token.kind_of_closing? hopens
      rw [afterBrackets_opening hopens, afterBrackets_opening (ht.closing?.trans hopens)]
      exact ih (List.forall_mem_cons.2 ⟨isClosing_of_closing? hx, hawaited⟩)
    · have hkind' : t'.kind = .symbol x := ht.kind.trans hkind
      by_cases hsame : x = awaited
      · subst hsame
        rw [afterBrackets_closing hkind hcloses, afterBrackets_closing hkind' hcloses]
        cases outer with
        | nil =>
          -- the outermost bracket is closed by a symbol, and no bracket is skipped after one
          rw [p.after_symbol hkind] at hts
          exact .inl ⟨ts, ts', by rw [afterBrackets], by rw [afterBrackets], hts⟩
        | cons next outer => exact ih (List.forall_mem_cons.1 hawaited).2
      · exact .inr ⟨_, _, by simp [afterBrackets, hkind, hnone, hsame, hcloses]; rfl,
          by simp [afterBrackets, hkind', hnone, hsame, hcloses]; rfl⟩
  | @bracket p q opens opens' closes closes' x inner inner' ts ts' hskips hopening hx hclosing hclosing' hinner hinner'
      hts ih =>
    obtain ⟨_, _, hcloses⟩ := Token.kind_of_closing? hx
    have hcloses := isClosing_of_closing? hcloses
    rw [List.cons_append, List.cons_append, afterBrackets_opening hx,
      afterBrackets_opening (hopening.closing?.trans hx), afterBrackets_contents hinner hclosing hcloses,
      afterBrackets_contents hinner' hclosing' hcloses]
    exact ih hawaited

/-- Skipping the bracket at the head stops in both sequences, or it leads to variants in both: at the place to which the
bracket leads if its contents may differ, and at an open place otherwise. -/
theorem skip_variant {p : Place} {ts ts' : List Token} (h : Variant p ts ts') {last last' : Token} {x : Symbol}
    (hopens : (ts.headD last).closing? = some x) (hlast : last.closing? = none) :
    (∃ rest rest', afterBrackets (ts.headD last) [x] ts.tail = .ok rest ∧
      afterBrackets (ts'.headD last') [x] ts'.tail = .ok rest' ∧
      ∃ q, (q = .other ∨ p.skips? (ts.headD last).kind = some q) ∧ Variant q rest rest') ∨
    ∃ e e', afterBrackets (ts.headD last) [x] ts.tail = .error e ∧
      afterBrackets (ts'.headD last') [x] ts'.tail = .error e' := by
  cases h with
  | nil =>
    rw [List.headD_nil, hlast] at hopens
    cases hopens
  | @token _ t t' ts ts' ht hts =>
    obtain ⟨_, _, hx⟩ := Token.kind_of_closing? hopens
    have hawaited : ∀ y ∈ [x], y.isClosing = true := List.forall_mem_singleton.2 (isClosing_of_closing? hx)
    obtain ⟨rest, rest', hrest, hrest', hvariant⟩ | herror := afterBrackets_variant hts hawaited t t'
    · exact .inl ⟨rest, rest', hrest, hrest', .other, .inl rfl, hvariant⟩
    · exact .inr herror
  | @bracket _ q _ _ _ _ y inner inner' ts ts' hskips hopening hy hclosing hclosing' hinner hinner' hts =>
    obtain ⟨_, _, hx⟩ := Token.kind_of_closing? hopens
    have hcloses := isClosing_of_closing? hx
    have hsame : y = x := Option.some.inj (hy.symm.trans hopens)
    subst hsame
    refine .inl ⟨ts, ts', ?_, ?_, q, .inr hskips, hts⟩
    · exact (afterBrackets_contents hinner hclosing hcloses).trans (by rw [afterBrackets])
    · exact (afterBrackets_contents hinner' hclosing' hcloses).trans (by rw [afterBrackets])

end PointOfFocus.Query
