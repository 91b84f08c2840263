import Mathlib.Data.List.TakeWhile
import PointOfFocus.Proofs.Text.Letter
import PointOfFocus.Query.Parse

/-!
# The shape of tokens and terms

What a term of a query can look like: which characters its names have, and how paths are nested. The shape of a token
says as much of its text as the terms that are read from it need, and every token that is cut out of a text has its
shape (`tokens_shaped`).
-/

namespace PointOfFocus.Query

open PointOfFocus.Rdf
open PointOfFocus.Text

/-! ### Names -/

/-- The text is an IRI as it stands in angle brackets. -/
def IsIri (iri : String) : Prop := ∀ c ∈ iri.toList, isIriChar c = true

instance (iri : String) : Decidable (IsIri iri) :=
  inferInstanceAs (Decidable (∀ c ∈ iri.toList, isIriChar c = true))

/-- The text is the name of a variable. -/
def IsVarName (x : String) : Prop := x.toList ≠ [] ∧ ∀ c ∈ x.toList, isVarChar c = true

instance (x : String) : Decidable (IsVarName x) :=
  inferInstanceAs (Decidable (x.toList ≠ [] ∧ ∀ c ∈ x.toList, isVarChar c = true))

/-- The text is the label of a blank node. -/
def IsBlankLabel (label : String) : Prop :=
  ∃ c cs, label.toList = c :: dropDots cs ∧ (c.isAlphanum || c = '_') = true ∧ ∀ d ∈ cs, isLabelChar d = true

/-- The text is a language tag: letters, and parts of letters and digits after hyphens. -/
def IsLanguage (tag : String) : Prop :=
  ∃ (first : List Char) (parts : List (List Char)), tag.toList = first ++ parts.flatMap ('-' :: ·) ∧
    first ≠ [] ∧ (∀ c ∈ first, c.isAlpha = true) ∧ ∀ part ∈ parts, part ≠ [] ∧ ∀ c ∈ part, c.isAlphanum = true

/-! ### Terms -/

/-- The qualifier of a literal is written with a language tag or an IRI. The text of a literal with a datatype has been
brought to its form. -/
def LiteralShape (l : Literal) : Prop :=
  match l.qualifier with
  | .none => True
  | .language tag => IsLanguage tag
  | .datatype iri => IsIri iri ∧ ∃ text, l.lexical = normalized iri text

/-- Whether the term is a sequence. -/
def isSequence : Term → Bool
  | .sequence _ => true
  | _ => false

/-- Whether the term is an alternative. -/
def isAlternative : Term → Bool
  | .alternative _ => true
  | _ => false

/-- A path that a query can be written with: sequences and alternatives have several parts and are flat. -/
inductive PathShape : Term → Prop where
  | iri {iri : String} (h : IsIri iri) : PathShape (.iri iri)
  | sequence {ts : List Term} (hlength : 2 ≤ ts.length) (hparts : ∀ t ∈ ts, PathShape t)
    (hflat : ∀ t ∈ ts, isSequence t = false) : PathShape (.sequence ts)
  | alternative {ts : List Term} (hlength : 2 ≤ ts.length) (hparts : ∀ t ∈ ts, PathShape t)
    (hflat : ∀ t ∈ ts, isAlternative t = false) : PathShape (.alternative ts)
  | inverse {t : Term} (h : PathShape t) : PathShape (.inverse t)

/-- A subject or an object that a query can be written with. -/
def NodeShape : Term → Prop
  | .var x => IsVarName x
  | .blank label => IsBlankLabel label
  | .literal l => LiteralShape l
  | .iri iri => IsIri iri
  | _ => False

/-- A predicate that a query can be written with. -/
def VerbShape (t : Term) : Prop := (∃ x, t = .var x ∧ IsVarName x) ∨ PathShape t

/-- A pattern that a query can be written with. -/
structure PatternShape (p : Pattern) : Prop where
  subject : NodeShape p.subject
  predicate : VerbShape p.predicate
  object : NodeShape p.object

/-! ### Tokens -/

/-- What is known of the text of a token by its kind. -/
def TokenShape (t : Token) : Prop :=
  match t.kind with
  | .iri => ∃ iri, t.text = "<" ++ iri ++ ">" ∧ IsIri iri
  | .var => ∃ mark x, t.text = String.singleton mark ++ x ∧ IsVarName x
  | .blank => ∃ label, t.text = "_:" ++ label ∧ IsBlankLabel label
  | .prefixedName => IsIri (splitName t.text).2
  | .language => ∃ tag, t.text = "@" ++ tag ∧ IsLanguage tag
  | _ => True

theorem orElse_eq_some {α : Type} {first second : Option α} {x : α} :
    (first <|> second) = some x ↔ first = some x ∨ first = none ∧ second = some x := by
  cases first <;> simp

/-- The rule by which the first token was found. -/
private theorem lexeme?_cases {cs : List Char} {kind : Kind} {length : Nat}
    (h : lexeme? cs = some (.token kind, length)) :
    kind = .iri ∧ iri? cs = some length ∨ kind = .var ∧ var? cs = some length ∨
      kind = .blank ∧ blank? cs = some length ∨ kind = .prefixedName ∧ prefixedName? cs = some length ∨
      kind = .language ∧ language? cs = some length ∨
      kind ∉ [Kind.iri, .var, .blank, .prefixedName, .language] := by
  simp only [lexeme?, orElse_eq_some, Option.map_eq_some_iff, Prod.mk.injEq, Lexeme.token.injEq, reduceCtorEq,
    false_and, and_false, exists_false, false_or] at h
  rcases h with ⟨-, -, ⟨_, h, rfl, rfl⟩ | ⟨-, ⟨_, h, rfl, rfl⟩ | ⟨-, ⟨_, h, rfl, rfl⟩ | ⟨-, ⟨_, h, rfl, rfl⟩ |
    ⟨-, ⟨_, h, rfl, rfl⟩ | ⟨-, ⟨_, h, rfl, rfl⟩ | ⟨-, ⟨_, h, rfl, rfl⟩ | ⟨-, ⟨_, h, rfl, rfl⟩ | ⟨-, ⟨_, h, rfl, rfl⟩ |
    ⟨-, ⟨_, h, rfl, rfl⟩ | ⟨-, ⟨_, h, rfl, rfl⟩ | ⟨-, ⟨_, h, rfl, rfl⟩ | ⟨-, ⟨_, h, rfl, rfl⟩⟩⟩⟩⟩⟩⟩⟩⟩⟩⟩⟩⟩⟩ <;> simp [h]

theorem take_takeWhile (p : Char → Bool) (cs : List Char) : cs.take (cs.takeWhile p).length = cs.takeWhile p :=
  List.prefix_iff_eq_take.1 (List.takeWhile_prefix p) |>.symm

theorem drop_takeWhile (p : Char → Bool) (cs : List Char) : cs.drop (cs.takeWhile p).length = cs.dropWhile p := by
  induction cs with
  | nil => rfl
  | cons c cs ih => cases hc : p c <;> simp [hc, ih]

/-- What was taken and the character after it. -/
private theorem take_takeWhile_succ {p : Char → Bool} {cs after : List Char} {d : Char}
    (h : cs.dropWhile p = d :: after)
    (n : Nat) : cs.take ((cs.takeWhile p).length + 1 + n) = cs.takeWhile p ++ d :: after.take n := by
  have hsplit : cs = cs.takeWhile p ++ d :: after := by rw [← h, List.takeWhile_append_dropWhile]
  generalize cs.takeWhile p = run at hsplit ⊢
  subst hsplit
  rw [Nat.add_assoc, List.take_length_add_append, Nat.add_comm, List.take_succ_cons]

private theorem iri?_shaped {cs : List Char} {length : Nat} (h : iri? cs = some length) :
    ∃ iri, String.ofList (cs.take length) = "<" ++ iri ++ ">" ∧ IsIri iri := by
  unfold iri? at h
  split at h
  next cs =>
    dsimp only at h
    split at h
    next after hafter =>
      cases h
      refine ⟨String.ofList (cs.takeWhile isIriChar), ?_, ?_⟩
      · rw [drop_takeWhile] at hafter
        have htake := take_takeWhile_succ hafter 0
        simp [List.take_succ_cons, htake, String.append_assoc]
      · intro c hc
        rw [String.toList_ofList] at hc
        exact List.mem_takeWhile_imp hc
    · cases h
  · cases h

private theorem var?_shaped {cs : List Char} {length : Nat} (h : var? cs = some length) :
    ∃ mark x, String.ofList (cs.take length) = String.singleton mark ++ x ∧ IsVarName x := by
  unfold var? at h
  split at h
  next c cs =>
    split at h
    · obtain ⟨n, hn, rfl⟩ := Option.map_eq_some_iff.1 h
      unfold runLength? at hn
      split at hn
      · cases hn
      next hrun =>
        cases hn
        refine ⟨c, String.ofList (cs.takeWhile isVarChar), ?_, ?_, ?_⟩
        · simp [List.take_succ_cons, take_takeWhile]
        · simpa using hrun
        · intro d hd
          rw [String.toList_ofList] at hd
          exact List.mem_takeWhile_imp hd
    · cases h
  · cases h

theorem dropDots_isPrefix (run : List Char) : dropDots run <+: run := by
  rw [dropDots, ← List.reverse_suffix, List.reverse_reverse]
  exact List.dropWhile_suffix _

private theorem blank?_shaped {cs : List Char} {length : Nat} (h : blank? cs = some length) :
    ∃ label, String.ofList (cs.take length) = "_:" ++ label ∧ IsBlankLabel label := by
  unfold blank? at h
  split at h
  next c cs =>
    split at h
    next hc =>
      cases h
      have hprefix := (dropDots_isPrefix (cs.takeWhile isLabelChar)).trans (List.takeWhile_prefix isLabelChar)
      refine ⟨String.ofList (c :: dropDots (cs.takeWhile isLabelChar)), ?_, c, _, String.toList_ofList, hc, ?_⟩
      · simp [List.take_succ_cons, ← List.prefix_iff_eq_take.1 hprefix, String.ext_iff]
      · exact fun d hd => List.mem_takeWhile_imp hd
    · cases h
  · cases h

private theorem lt_of_isWord {c : Char} (h : isWord c = true) : 0x20 < c.toNat := by
  have hranges : ∀ range ∈ wordRanges, 0x20 < range.1 := by decide +kernel
  obtain ⟨range, hmem, hin⟩ := List.any_eq_true.1 h
  have hlow := hranges range hmem
  simp only [Bool.and_eq_true, decide_eq_true_eq] at hin
  omega

private theorem isIriChar_of_isWord {c : Char} (h : isWord c = true) : isIriChar c = true := by
  have hmarks : ∀ d ∈ ['<', '>', '"', '\x7b', '\x7d', '|', '^', '\x60', '\\'], isWord d = false := by decide +kernel
  have hother : ¬ c ∈ ['<', '>', '"', '\x7b', '\x7d', '|', '^', '\x60', '\\'] := by
    intro hmem
    rw [hmarks c hmem] at h
    cases h
  simp only [isIriChar, Bool.and_eq_true, decide_eq_true_eq, Bool.not_eq_true', ← Bool.not_eq_true,
    List.contains_iff_mem]
  exact ⟨lt_of_isWord h, hother⟩

private theorem isIriChar_of_isLocalChar {c : Char} (h : isLocalChar c = true) : isIriChar c = true := by
  simp only [isLocalChar, Bool.or_eq_true, decide_eq_true_eq] at h
  rcases h with (((h | rfl) | rfl) | rfl) | rfl
  · exact isIriChar_of_isWord h
  all_goals decide

/-- A local part is the start of a run of its characters. -/
theorem localPart_isPrefix (cs : List Char) : localPart cs <+: cs.takeWhile isLocalChar := by
  unfold localPart
  split
  · exact List.nil_prefix
  · exact dropDots_isPrefix _

private theorem ne_colon_of_isLabelChar {c : Char} (h : isLabelChar c = true) : c ≠ ':' := by
  rintro rfl
  revert h
  decide +kernel

private theorem takeWhile_colon {run rest : List Char} (h : ∀ c ∈ run, c ≠ ':') :
    (run ++ ':' :: rest).takeWhile (· ≠ ':') = run := by
  rw [List.takeWhile_append_of_pos (by simpa using h)]
  simp

private theorem prefixedName?_shaped {cs : List Char} {length : Nat} (h : prefixedName? cs = some length) :
    IsIri (splitName (String.ofList (cs.take length))).2 := by
  unfold prefixedName? at h
  dsimp only at h
  split at h
  next rest hrest =>
    split at h
    · cases h
      rw [drop_takeWhile] at hrest
      have hlabel : ∀ c ∈ cs.takeWhile isLabelChar, c ≠ ':' :=
        fun c hc => ne_colon_of_isLabelChar (List.mem_takeWhile_imp hc)
      have hprefix := (localPart_isPrefix rest).trans (List.takeWhile_prefix isLocalChar)
      intro c hc
      rw [take_takeWhile_succ hrest, ← List.prefix_iff_eq_take.1 hprefix] at hc
      simp only [splitName, String.toList_ofList, takeWhile_colon hlabel] at hc
      rw [← List.drop_drop, List.drop_left, List.drop_one, List.tail_cons] at hc
      exact isIriChar_of_isLocalChar (List.mem_takeWhile_imp ((localPart_isPrefix rest).subset hc))
    · cases h
  · cases h

private theorem languageParts_shaped : ∀ (fuel : Nat) (cs : List Char), ∃ parts : List (List Char),
    cs.take (languageParts fuel cs) = parts.flatMap ('-' :: ·) ∧
      ∀ part ∈ parts, part ≠ [] ∧ ∀ c ∈ part, c.isAlphanum = true
  | 0, cs => ⟨[], by simp [languageParts]⟩
  | fuel + 1, cs => by
    unfold languageParts
    split
    next rest =>
      dsimp only
      split
      · exact ⟨[], by simp⟩
      next hpart =>
        obtain ⟨parts, htake, hparts⟩ := languageParts_shaped fuel (rest.drop (rest.takeWhile Char.isAlphanum).length)
        refine ⟨rest.takeWhile Char.isAlphanum :: parts, ?_, ?_⟩
        · rw [Nat.add_right_comm, List.take_succ_cons, List.take_add, take_takeWhile, htake]
          rfl
        · intro part hmem
          rcases List.mem_cons.1 hmem with rfl | hmem
          · exact ⟨by simpa using hpart, fun c hc => List.mem_takeWhile_imp hc⟩
          · exact hparts part hmem
    · exact ⟨[], by simp⟩

private theorem language?_shaped {cs : List Char} {length : Nat} (h : language? cs = some length) :
    ∃ tag, String.ofList (cs.take length) = "@" ++ tag ∧ IsLanguage tag := by
  unfold language? at h
  split at h
  next cs =>
    dsimp only at h
    split at h
    · cases h
    next hfirst =>
      cases h
      obtain ⟨parts, htake, hparts⟩ := languageParts_shaped cs.length (cs.drop (cs.takeWhile Char.isAlpha).length)
      refine ⟨String.ofList (cs.takeWhile Char.isAlpha ++ parts.flatMap ('-' :: ·)), ?_, _, parts,
        String.toList_ofList, ?_, ?_, hparts⟩
      · rw [Nat.add_right_comm, List.take_succ_cons, List.take_add, take_takeWhile, htake]
        simp
      · simpa using hfirst
      · exact fun c hc => List.mem_takeWhile_imp hc
  · cases h

/-- A token that is cut out of a text has the shape of its kind. -/
private theorem lexeme?_shaped {cs : List Char} {kind : Kind} {length start stop : Nat}
    (h : lexeme? cs = some (.token kind, length)) : TokenShape ⟨kind, String.ofList (cs.take length), start, stop⟩ := by
  rcases lexeme?_cases h with ⟨rfl, hrule⟩ | ⟨rfl, hrule⟩ | ⟨rfl, hrule⟩ | ⟨rfl, hrule⟩ |
    ⟨rfl, hrule⟩ | hkind
  · exact iri?_shaped hrule
  · exact var?_shaped hrule
  · exact blank?_shaped hrule
  · exact prefixedName?_shaped hrule
  · exact language?_shaped hrule
  · cases kind <;> trivial

section

variable {P : Token → Prop}

/-- What holds of every token as it is cut out of a text holds of all that are found. -/
theorem tokensFrom_forall (hlexeme : ∀ {cs kind length start stop}, lexeme? cs = some (.token kind, length) →
    P ⟨kind, String.ofList (cs.take length), start, stop⟩) {skip offset : Nat} {cs : List Char} {ts : List Token}
    (h : tokensFrom skip offset cs = .ok ts) : ∀ t ∈ ts, P t := by
  fun_induction tokensFrom skip offset cs generalizing ts with
  | case1 => cases h; simp
  | case2 skip offset c cs ih => exact ih h
  | case3 => cases h
  | case4 offset c cs length _ ih => exact ih h
  | case5 offset c cs kind length hfound ih =>
    cases hrest : tokensFrom (length - 1) (offset + 1) cs with
    | error e => rw [hrest] at h; cases h
    | ok rest =>
      rw [hrest] at h
      cases h
      exact List.forall_mem_cons.2 ⟨hlexeme hfound, ih hrest⟩

/-- What holds of a token with and without a hint, and of all tokens before it, holds of all after the hint is attached.
-/
theorem attachFocus_forall {t : Token} {seen after : List Token} (h : attachFocus t seen = .ok after)
    (hhint : ∀ hint source, P (t.withHint hint source)) (ht : P t) (hseen : ∀ u ∈ seen, P u) : ∀ u ∈ after, P u := by
  have htouching : ∀ previous rest, (∀ u ∈ previous :: rest, P u) →
      ∀ u ∈ attachFocus.touching t previous rest, P u := by
    intro previous rest hall
    have hrest := fun u hu => hall u (List.mem_cons_of_mem previous hu)
    unfold attachFocus.touching
    repeat' split
    all_goals
      first
      | exact List.forall_mem_cons.2 ⟨hhint _ _, hrest⟩
      | exact List.forall_mem_cons.2 ⟨ht, hall⟩
  unfold attachFocus at h
  split at h
  · cases h
    exact List.forall_mem_cons.2 ⟨ht, by simp⟩
  · cases h
    exact htouching _ _ hseen
  next previous before rest =>
    split at h
    · split at h
      · cases h
        exact List.forall_mem_cons.2 ⟨hhint _ _, fun u hu => hseen u (by simp [hu])⟩
      · cases h
    · cases h
      exact htouching _ _ hseen

variable (hhint : ∀ t hint source, P (Token.withHint t hint source))

include hhint

private theorem attachHints_forall {seen ts after : List Token} (h : attachHints seen ts = .ok after)
    (hseen : ∀ t ∈ seen, P t) (hts : ∀ t ∈ ts, P t) : ∀ t ∈ after, P t := by
  induction ts generalizing seen with
  | nil =>
    cases h
    simpa using hseen
  | cons t ts ih =>
    obtain ⟨ht, hts⟩ := List.forall_mem_cons.1 hts
    unfold attachHints at h
    split at h
    · cases hattach : attachFocus t seen with
      | error e => rw [hattach] at h; cases h
      | ok next =>
        rw [hattach] at h
        exact ih h (attachFocus_forall hattach (hhint t) ht hseen) hts
    · exact ih h (List.forall_mem_cons.2 ⟨ht, hseen⟩) hts

/-- What holds of every token as it is cut out of a text, and of every hint, holds of the tokens of a query. -/
theorem tokens_forall (hlexeme : ∀ {cs kind length start stop}, lexeme? cs = some (.token kind, length) →
    P ⟨kind, String.ofList (cs.take length), start, stop⟩) {text : List Char} {ts : List Token}
    (h : tokens text = .ok ts) : ∀ t ∈ ts, P t := by
  unfold tokens at h
  cases hfrom : tokensFrom 0 0 text with
  | error e => rw [hfrom] at h; cases h
  | ok found =>
    rw [hfrom] at h
    exact attachHints_forall hhint h (by simp) (tokensFrom_forall hlexeme hfrom)

end

/-- Every token of a text has its shape. -/
theorem tokens_shaped {text : List Char} {ts : List Token} (h : tokens text = .ok ts) : ∀ t ∈ ts, TokenShape t :=
  tokens_forall (fun _ _ _ => trivial) lexeme?_shaped h

end PointOfFocus.Query
