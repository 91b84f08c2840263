import PointOfFocus.Proofs.Query.Rereading

/-!
# Paths that are read back

The written form of a path is cut into tokens, and the parser of paths reads them as the path, unless the path has an
inverse right inside an inverse (`renderPredicate_reread`). Such a path is written with two carets in a row, which are cut
out as the mark of a datatype, and no step starts with one (`pathStep_refuses_mark`). The parser reads the steps before
it and stops there, at any depth (`PathShape.cut`).
-/

namespace PointOfFocus.Query

open PointOfFocus.Rdf
open Phrase

variable {labels : Labels}

/-! ### Productions that stop -/

/-- The production stops with a fault where the tokens of the pieces are at hand. -/
def Refuses {α : Type} (labels : Labels) (production : Parser α) (ps : List Piece) : Prop :=
  ∀ s rest, Ready labels (markers ps) s → Ahead ps s.ahead rest → ∃ e after, production s = (.error e, after)

section

variable {α β : Type} {ps qs : List Piece}

/-- What a production refuses it refuses whatever follows. -/
theorem Refuses.append {production : Parser α} (h : Refuses labels production ps) (qs : List Piece) :
    Refuses labels production (ps ++ qs) := by
  intro s rest hs hahead
  obtain ⟨middle, hps, -⟩ := ahead_append.1 hahead
  rw [markers_append] at hs
  exact h s middle (hs.after (Moves.refl rfl) (by omega)) hps

private theorem Refuses.bind {first : Parser α} (h : Refuses labels first ps) (next : α → Parser β) :
    Refuses labels (first >>= next) ps := by
  intro s rest hs hahead
  obtain ⟨e, after, hfirst⟩ := h s rest hs hahead
  exact ⟨e, after, by rw [bind_apply, hfirst]⟩

/-- A production that takes a token and goes on as one that stops. -/
private theorem Refuses.cons {production : Parser α} {next : Parser β} {p : Piece} (h : Refuses labels next ps)
    (hstep : ∀ s t later, s.ahead = t :: later → p.Matches t → ∀ e after,
      next { s with ahead := later } = (.error e, after) → production s = (.error e, after)) :
    Refuses labels production (p :: ps) := by
  intro s rest hs hahead
  obtain ⟨t, later, hts, ht, hps⟩ := hahead
  rw [markers_cons] at hs
  obtain ⟨e, after, hnext⟩ := h { s with ahead := later } rest (hs.after (Moves.to s later) (by omega)) hps
  exact ⟨e, after, hstep s t later hts ht e after hnext⟩

/-- What comes after a production that reads its pieces stops. -/
private theorem Refuses.after {first : Parser α} {next : α → Parser β} {value : α} {Follow : Token → Prop}
    (h : Reads labels first ps (fun n => ⟨value, [], n⟩) Follow) (h' : Refuses labels (next value) qs)
    (hfollow : ∀ ts rest last, Ahead qs ts rest → Follow (ts.headD last)) :
    Refuses labels (first >>= next) (ps ++ qs) := by
  intro s rest hs hahead
  obtain ⟨middle, hps, hqs⟩ := ahead_append.1 hahead
  rw [markers_append] at hs
  obtain ⟨after, hfirst, hmoves, -⟩ :=
    h s middle (hs.after (Moves.refl rfl) (by omega)) hps (hfollow middle rest s.last hqs)
  obtain ⟨e, last, hnext⟩ := h' after rest (hs.after hmoves (by omega)) (hmoves.ahead ▸ hqs)
  exact ⟨e, last, by rw [bind_apply, hfirst]; exact hnext⟩

end

/-! ### Lists with an item that is not read -/

/-- The production reads the pieces, or it stops there. -/
def Decides (labels : Labels) (production : Parser Term) (Follow : Token → Prop) (ps : List Piece) : Prop :=
  (∃ value, Reads labels production ps (fun n => ⟨value, [], n⟩) Follow) ∨ Refuses labels production ps

section

variable {separator : Symbol} {item : Parser Term} {Follow : Token → Prop}

private theorem separated_refuses (hseparator : ∀ t : Token, t.kind = .symbol separator → Follow t)
    {pss : List (List Piece)}
    (hitems : ∀ ps ∈ pss, Decides labels item Follow ps) (hbad : ∃ ps ∈ pss, Refuses labels item ps) (bound : Nat) :
    Refuses labels (separated separator item bound) (pss.flatMap (symbol separator :: ·)) := by
  induction pss generalizing bound with
  | nil => simp at hbad
  | cons ps pss ih =>
    cases bound with
    | zero => exact fun s _ _ _ => ⟨_, _, fail_apply _ s⟩
    | succ bound =>
      obtain ⟨hfirst, hitems⟩ := List.forall_mem_cons.1 hitems
      have hmore : Refuses labels (do let first ← item; return first :: (← separated separator item bound))
          (ps ++ pss.flatMap (symbol separator :: ·)) := by
        rcases hfirst with ⟨value, hreads⟩ | hrefuses
        · obtain ⟨qs, hqs, hrefuses⟩ := hbad
          rcases List.mem_cons.1 hqs with rfl | hqs
          · exact (hrefuses.bind _).append _
          · refine Refuses.after hreads ((ih hitems ⟨qs, hqs, hrefuses⟩ bound).bind _) fun ts rest last hahead => ?_
            obtain ⟨os, pss, rfl⟩ := List.exists_cons_of_ne_nil (List.ne_nil_of_mem hqs)
            obtain ⟨t, later, rfl, ⟨hkind, -⟩, -⟩ := hahead
            exact hseparator t hkind
        · exact (hrefuses.bind _).append _
      rw [List.flatMap_cons, List.cons_append]
      refine hmore.cons fun s t later hts ht e after hnext => ?_
      simp only [separated, bind_apply, atSymbol_apply, token_of_ahead hts, show t.kind = .symbol separator from ht.1,
        decide_true, ↓reduceIte, advance_apply, hts, List.tail_cons]
      simpa only [bind_apply] using hnext

/-- A list with an item at which its production stops is not read. -/
private theorem listed_refuses (join : List Term → Term)
    (hseparator : ∀ t : Token, t.kind = .symbol separator → Follow t)
    {ps : List Piece} {pss : List (List Piece)} (hitems : ∀ qs ∈ ps :: pss, Decides labels item Follow qs)
    (hbad : ∃ qs ∈ ps :: pss, Refuses labels item qs) (bound : Nat) :
    Refuses labels
      (do
        let x ← item
        match ← separated separator item bound with
        | [] => return x
        | rest => return join (x :: rest))
      (ps ++ pss.flatMap (symbol separator :: ·)) := by
  obtain ⟨hfirst, hitems⟩ := List.forall_mem_cons.1 hitems
  obtain ⟨qs, hqs, hrefuses⟩ := hbad
  rcases List.mem_cons.1 hqs with rfl | hqs
  · exact (hrefuses.bind _).append _
  · rcases hfirst with ⟨value, hreads⟩ | hfirst
    · refine Refuses.after hreads ((separated_refuses hseparator hitems ⟨qs, hqs, hrefuses⟩ bound).bind _)
        fun ts rest last hahead => ?_
      obtain ⟨os, pss, rfl⟩ := List.exists_cons_of_ne_nil (List.ne_nil_of_mem hqs)
      obtain ⟨t, later, rfl, ⟨hkind, -⟩, -⟩ := hahead
      exact hseparator t hkind
    · exact (hfirst.bind _).append _

end

/-! ### Steps that are not read -/

/-- A step stops where its path stops, with a caret or without one. -/
private theorem pathStep_refuses_of_primary {inner : Parser Term} {core : List Piece} (inverse : Bool)
    (h : Refuses labels (pathPrimary inner) core) (hfirst : StartsWith (·.kind ≠ .symbol .caret) core) :
    Refuses labels (pathStep inner) (caretPieces inverse ++ core) := by
  cases inverse with
  | true =>
    refine h.cons fun s t later hts ht e after hnext => ?_
    simp only [pathStep, bind_apply, atSymbol_apply, token_of_ahead hts, show t.kind = .symbol .caret from ht.1,
      decide_true, ↓reduceIte, advance_apply, hts, List.tail_cons, hnext]
  | false =>
    intro s rest hs hahead
    obtain ⟨e, after, hprimary⟩ := h s rest hs hahead
    have hcaret : s.token.kind ≠ .symbol .caret := hfirst.head hahead s.last
    refine ⟨e, after, ?_⟩
    simp only [pathStep, bind_apply, atSymbol_apply, hcaret, decide_false, Bool.false_eq_true, ↓reduceIte, hprimary]

/-- The mark of a datatype starts no step. -/
theorem pathStep_refuses_mark (inner : Parser Term) (ps : List Piece) :
    Refuses labels (pathStep inner) (.exact .datatypeMark "^^" :: ps) := by
  refine pathStep_refuses_of_primary false ?_ ⟨_, _, rfl, fun t ht => by simp [ht.1]⟩
  intro s rest _ hahead
  obtain ⟨t, later, hts, ⟨hkind, -⟩, -⟩ := hahead
  refine ⟨.at s.token.start (.expected "a predicate" t), s, ?_⟩
  simp [pathPrimary, bind_apply, token_apply, token_of_ahead hts, hkind, fail_apply]

private theorem pathStep_refuses_group {inner : Parser Term} {ps : List Piece} (h : Refuses labels inner ps)
    (inverse : Bool) :
    Refuses labels (pathStep inner) (caretPieces inverse ++ (symbol .openParen :: (ps ++ [symbol .closeParen]))) := by
  refine pathStep_refuses_of_primary inverse ?_ ⟨_, _, rfl, fun t ht => by simp [ht.1]⟩
  refine (h.append [symbol .closeParen]).cons fun s t later hts ht e after hnext => ?_
  simp only [pathPrimary, bind_apply, token_apply, token_of_ahead hts, show t.kind = .symbol .openParen from ht.1,
    advance_apply, hts, List.tail_cons, hnext]

private theorem path_refuses_of_sequence {bound : Nat} {ps : List Piece}
    (h : ∀ b, ps.length ≤ b → Refuses labels (pathSequence b (path b)) ps) (hbound : ps.length < bound) :
    Refuses labels (path bound) ps := by
  obtain ⟨b, rfl⟩ := Nat.exists_eq_succ_of_ne_zero (Nat.ne_of_gt (Nat.zero_lt_of_lt hbound))
  rw [path]
  exact (h b (Nat.le_of_lt_succ hbound)).bind _

/-- A path stops where its first step does. -/
private theorem path_refuses_of_step {bound : Nat} {ps : List Piece}
    (h : ∀ b, ps.length ≤ b → Refuses labels (pathStep (path b)) ps) (hbound : ps.length < bound) :
    Refuses labels (path bound) ps :=
  path_refuses_of_sequence (fun b hb => (h b hb).bind _) hbound

/-! ### The written form of a path -/

/-- The first token is neither a variable nor a point of focus. -/
def Token.NoTerm (t : Token) : Prop := t.kind ≠ .var ∧ ∀ hint, t.kind ≠ .focus hint

/-- The pieces are those of a part of a path: they are read as the part, or the parser stops there. -/
def IsPart (labels : Labels) (t : Term) (ps : List Piece) : Prop :=
  ∀ bound, ps.length ≤ bound →
    (hasDoubleInverse t = false ∧ Reads labels (pathStep (path bound)) ps (fun n => ⟨t, [], n⟩) (·.isRepetition = false)) ∨
    (hasDoubleInverse t = true ∧ Refuses labels (pathStep (path bound)) ps)

/-- The path is written as the text, alone and as a part of a path, before anything. Where an inverse stands right
inside an inverse, the parser stops. -/
structure PathCut (labels : Labels) (t : Term) (text : String) : Prop where
  render : t.render = .ok text
  whole : ∃ ps, Writes Anything text ps ∧ StartsWith Token.NoTerm ps ∧
    (hasDoubleInverse t = true → ∀ bound, ps.length < bound → Refuses labels (path bound) ps)
  part (inverse : Bool) : ∃ ps, Writes Anything ((if inverse then "^" else "") ++ t.parenthesize text) ps ∧
    StartsWith Token.NoTerm ps ∧ (hasDoubleInverse (stepTerm inverse t) = true →
      ∀ bound, ps.length ≤ bound → Refuses labels (pathStep (path bound)) ps)
  start : ∃ c cs, (t.parenthesize text).toList = c :: cs ∧ c ≠ '|'

section

variable {t : Term} {text : String}

private theorem Step.noTerm (step : Step) : StartsWith Token.NoTerm step.pieces :=
  (Step.startsPath step).mono fun _ h => h.2

private theorem PathCut.isPart (h : PathCut labels t text) (hshape : PathShape t) :
    ∃ ps, Writes Anything (t.parenthesize text) ps ∧ IsPart labels t ps ∧ StartsWith Token.NoTerm ps := by
  cases hinverse : hasDoubleInverse t with
  | true =>
    obtain ⟨ps, hwrites, hstarts, hrefuses⟩ := h.part false
    rw [if_neg (by decide), String.empty_append] at hwrites
    exact ⟨ps, hwrites, fun bound hbound => .inr ⟨hinverse, hrefuses hinverse bound hbound⟩, hstarts⟩
  | false =>
    obtain ⟨text', hrender, ⟨⟨step, hterm, hfits, hwrites⟩, -⟩, -⟩ := path_written hshape hinverse labels
    obtain rfl : text' = text := Except.ok.inj (hrender.symm.trans h.render)
    refine ⟨step.pieces, hwrites, fun bound hbound => .inl ⟨hinverse, ?_⟩, Step.noTerm step⟩
    rw [← hterm]
    exact pathStep_reads (path_reads bound) hfits hbound

/-- The parts of a path are written with a sign between them. -/
private theorem parts_cut {separator : Symbol} {mark : String}
    (hmark : Writes (fun rest => rest.head? ≠ some '|') mark [symbol separator]) {ts : List Term} (hne : ts ≠ [])
    (h : ∀ u ∈ ts, PathShape u ∧ ∃ text, PathCut labels u text) :
    ∃ texts, Term.renderParts ts = .ok texts ∧ texts ≠ [] ∧
      (∃ c cs, (mark.intercalate texts).toList = c :: cs ∧ c ≠ '|') ∧
      ∃ ps pss, Writes Anything (mark.intercalate texts) (ps ++ pss.flatMap (symbol separator :: ·)) ∧
        List.Forall₂ (IsPart labels) ts (ps :: pss) ∧ StartsWith Token.NoTerm ps := by
  induction ts with
  | nil => exact absurd rfl hne
  | cons u us ih =>
    obtain ⟨⟨hshape, text, hcut⟩, hus⟩ := List.forall_mem_cons.1 h
    obtain ⟨ps, hwrites, hpart, hnoTerm⟩ := hcut.isPart hshape
    obtain ⟨c, cs, hstart, hc⟩ := hcut.start
    cases us with
    | nil =>
      refine ⟨[u.parenthesize text], by simp [Term.renderParts, hcut.render, bind, Except.bind, pure, Except.pure],
        by simp, ?_, ps, [], ?_, .cons hpart .nil, hnoTerm⟩
      · exact ⟨c, cs, by rw [String.intercalate_singleton, hstart], hc⟩
      · rwa [String.intercalate_singleton, List.flatMap_nil, List.append_nil]
    | cons v vs =>
      obtain ⟨texts, hparts, htexts, ⟨d, ds, hnext, hd⟩, qs, qss, hmore, hall, -⟩ := ih (by simp) hus
      refine ⟨u.parenthesize text :: texts, ?_, by simp, ?_, ps, qs :: qss, ?_, .cons hpart hall, hnoTerm⟩
      · rw [Term.renderParts, hcut.render, hparts]
        rfl
      · exact ⟨c, cs ++ (mark ++ mark.intercalate texts).toList, by
          rw [String.intercalate_cons_of_ne_nil htexts, String.append_assoc, String.toList_append, hstart]
          rfl, hc⟩
      · rw [String.intercalate_cons_of_ne_nil htexts, List.flatMap_cons]
        -- no part starts with a bar, which would turn the sign before it into another one
        have hrest := hmark.append hmore fun rest _ => by simp [hnext, hd]
        have hboth := hwrites.append hrest fun _ _ => trivial
        simpa [String.append_assoc] using hboth

private theorem hasDoubleInverse_step (inverse : Bool) (h : ∀ u, t ≠ .inverse u) :
    hasDoubleInverse (stepTerm inverse t) = hasDoubleInverse t := by
  cases inverse with
  | false => rfl
  | true =>
    cases t with
    | inverse u => exact absurd rfl (h u)
    | _ => simp [stepTerm, hasDoubleInverse]

/-- A path in parentheses, with a caret before it or without one. -/
private theorem part_of_whole {ps : List Piece} (hwrites : Writes Anything text ps)
    (hrefuses : hasDoubleInverse t = true → ∀ bound, ps.length < bound → Refuses labels (path bound) ps)
    (hcompound : t.isCompound = true) (hinverse : ∀ u, t ≠ .inverse u) (inverse : Bool) :
    ∃ qs, Writes Anything ((if inverse then "^" else "") ++ t.parenthesize text) qs ∧ StartsWith Token.NoTerm qs ∧
      (hasDoubleInverse (stepTerm inverse t) = true →
        ∀ bound, qs.length ≤ bound → Refuses labels (pathStep (path bound)) qs) := by
  have hopen : Writes Anything "(" [symbol .openParen] := writes_symbol .openParen (by decide) fun _ _ => ⟨rfl, rfl⟩
  have hclose : Writes Anything ")" [symbol .closeParen] := writes_symbol .closeParen (by decide) fun _ _ => ⟨rfl, rfl⟩
  have hgroup := (hopen.before hwrites).before hclose
  rw [Term.parenthesize, if_pos hcompound, hasDoubleInverse_step inverse hinverse]
  refine ⟨caretPieces inverse ++ (symbol .openParen :: (ps ++ [symbol .closeParen])), ?_, ?_, fun hdouble bound hbound => ?_⟩
  · cases inverse with
    | false => simpa [caretPieces] using hgroup
    | true =>
      have hall := writes_caret.append hgroup fun _ _ => by simp
      simpa [caretPieces] using hall
  · cases inverse <;> exact ⟨_, _, rfl, fun t ht => by simp [Token.NoTerm, ht.1]⟩
  · refine pathStep_refuses_group (hrefuses hdouble bound ?_) inverse
    simp only [List.length_append, List.length_cons] at hbound
    omega

private theorem start_of_compound (h : t.isCompound = true) :
    ∃ c cs, (t.parenthesize text).toList = c :: cs ∧ c ≠ '|' := by
  rw [Term.parenthesize, if_pos h]
  exact ⟨'(', text.toList ++ [')'], by simp, by decide⟩

/-- If one of the parts has an inverse right inside an inverse, the parser stops at one of them. -/
private theorem exists_refuses {ts : List Term} {pss : List (List Piece)} (h : List.Forall₂ (IsPart labels) ts pss)
    (hdouble : anyDoubleInverse ts = true) {bound : Nat} (hbound : ∀ ps ∈ pss, ps.length ≤ bound) :
    ∃ ps ∈ pss, Refuses labels (pathStep (path bound)) ps := by
  induction h with
  | nil => cases hdouble
  | @cons t ps ts pss hpart _ ih =>
    obtain ⟨hfirst, hothers⟩ := List.forall_mem_cons.1 hbound
    rw [anyDoubleInverse, Bool.or_eq_true] at hdouble
    rcases hpart bound hfirst with ⟨hnone, -⟩ | ⟨-, hrefuses⟩
    · rw [hnone] at hdouble
      obtain ⟨qs, hqs, hrefuses⟩ := ih (hdouble.resolve_left (by simp)) hothers
      exact ⟨qs, List.mem_cons_of_mem _ hqs, hrefuses⟩
    · exact ⟨ps, List.mem_cons_self, hrefuses⟩

private theorem decides_of_parts {ts : List Term} {pss : List (List Piece)} (h : List.Forall₂ (IsPart labels) ts pss)
    {bound : Nat} (hbound : ∀ ps ∈ pss, ps.length ≤ bound) :
    ∀ ps ∈ pss, Decides labels (pathStep (path bound)) (·.isRepetition = false) ps := by
  induction h with
  | nil => simp
  | cons hpart _ ih =>
    obtain ⟨hfirst, hothers⟩ := List.forall_mem_cons.1 hbound
    refine List.forall_mem_cons.2 ⟨?_, ih hothers⟩
    rcases hpart bound hfirst with ⟨-, hreads⟩ | ⟨-, hrefuses⟩
    · exact .inl ⟨_, hreads⟩
    · exact .inr hrefuses

/-- A step stands for a sequence of its own. -/
private theorem Decides.sequence {bound b : Nat} {ps : List Piece}
    (h : Decides labels (pathStep (path b)) (·.isRepetition = false) ps) (hbound : 0 < bound) :
    Decides labels (pathSequence bound (path b)) (fun t => t.isRepetition = false ∧ t.kind ≠ .symbol .slash) ps := by
  rcases h with ⟨value, hreads⟩ | hrefuses
  · have hseparator (t : Token) (ht : t.kind = .symbol .slash) : t.isRepetition = false := by
      simp [Token.isRepetition, ht]
    have halone := listed_reads id (fun _ => value) .sequenceOf hseparator
      (show ([] : List (List Piece)).length < bound from hbound) (List.forall_mem_singleton.2 hreads)
    rw [List.flatMap_nil, List.append_nil] at halone
    exact .inl ⟨value, halone⟩
  · exact .inr (hrefuses.bind _)

private theorem length_le_of_listed {ps : List Piece} {pss : List (List Piece)} {separator : Piece} {bound : Nat}
    (h : (ps ++ pss.flatMap (separator :: ·)).length ≤ bound) : ∀ qs ∈ ps :: pss, qs.length ≤ bound :=
  fun qs hqs => Nat.le_trans ((length_listed id separator ps pss).1 qs hqs) h

/-- Every path is written before anything, and the parser stops where it has an inverse right inside an inverse. -/
theorem PathShape.cut (h : PathShape t) (labels : Labels) : ∃ text, PathCut labels t text := by
  induction h with
  | @iri iri h =>
    have hstep (inverse : Bool) : ∃ ps, Writes Anything ((if inverse then "^" else "") ++ ("<" ++ iri ++ ">")) ps ∧
        StartsWith Token.NoTerm ps ∧ (hasDoubleInverse (stepTerm inverse (.iri iri)) = true →
          ∀ bound, ps.length ≤ bound → Refuses labels (pathStep (path bound)) ps) := by
      obtain ⟨⟨step, -, -, hwrites⟩, -⟩ : StepWritten labels _ _ := name_written h inverse
      refine ⟨step.pieces, hwrites, Step.noTerm step, fun hdouble => ?_⟩
      rw [hasDoubleInverse_step inverse (by simp)] at hdouble
      simp [hasDoubleInverse] at hdouble
    obtain ⟨ps, hwrites, hnoTerm, hrefuses⟩ := hstep false
    rw [if_neg (by decide), String.empty_append] at hwrites
    exact ⟨_, by rw [Term.render, h.renderIri], ⟨ps, hwrites, hnoTerm, by simp [hasDoubleInverse]⟩, hstep,
      '<', iri.toList ++ ['>'], by simp [Term.parenthesize, Term.isCompound], by decide⟩
  | @sequence ts hlength hparts _ ih =>
    have hne : ts ≠ [] := List.ne_nil_of_length_pos (by omega)
    obtain ⟨texts, hrender, -, -, ps, pss, hwrites, hall, hnoTerm⟩ := parts_cut
      (writes_slash.mono fun _ _ => trivial) hne fun u hu => ⟨hparts u hu, ih u hu⟩
    -- It is enough that one part is refused, for the parser stops there.
    have hrefuses (hdouble : hasDoubleInverse (.sequence ts) = true) (bound : Nat)
        (hbound : (ps ++ pss.flatMap (symbol .slash :: ·)).length < bound) :
        Refuses labels (path bound) (ps ++ pss.flatMap (symbol .slash :: ·)) := by
      rw [hasDoubleInverse] at hdouble
      refine path_refuses_of_sequence (fun b hb => ?_) hbound
      have hlengths := length_le_of_listed hb
      exact listed_refuses .sequenceOf (fun t ht => by simp [Token.isRepetition, ht]) (decides_of_parts hall hlengths)
        (exists_refuses hall hdouble hlengths) b
    have hcompound : (Term.sequence ts).isCompound = true := decide_eq_true hlength
    exact ⟨_, by rw [Term.render, hrender]; rfl, ⟨_, hwrites, hnoTerm.append _, hrefuses⟩,
      part_of_whole hwrites hrefuses hcompound (by simp), start_of_compound hcompound⟩
  | @alternative ts hlength hparts _ ih =>
    have hne : ts ≠ [] := List.ne_nil_of_length_pos (by omega)
    obtain ⟨texts, hrender, -, -, ps, pss, hwrites, hall, hnoTerm⟩ := parts_cut writes_bar hne
      fun u hu => ⟨hparts u hu, ih u hu⟩
    have hrefuses (hdouble : hasDoubleInverse (.alternative ts) = true) (bound : Nat)
        (hbound : (ps ++ pss.flatMap (symbol .bar :: ·)).length < bound) :
        Refuses labels (path bound) (ps ++ pss.flatMap (symbol .bar :: ·)) := by
      rw [hasDoubleInverse] at hdouble
      obtain ⟨b, rfl⟩ := Nat.exists_eq_succ_of_ne_zero (Nat.ne_of_gt (Nat.zero_lt_of_lt hbound))
      have hlengths := length_le_of_listed (Nat.le_of_lt_succ hbound)
      have hpos : 0 < b := by
        obtain ⟨p, qs, rfl, -⟩ := hnoTerm
        exact Nat.lt_of_lt_of_le (Nat.succ_pos _) (hlengths (p :: qs) List.mem_cons_self)
      obtain ⟨qs, hqs, hrefuses⟩ := exists_refuses hall hdouble hlengths
      rw [path]
      exact listed_refuses .alternativeOf (fun t ht => by simp [Token.isRepetition, ht])
        (fun qs hqs => (decides_of_parts hall hlengths qs hqs).sequence hpos) ⟨qs, hqs, hrefuses.bind _⟩ b
    have hcompound : (Term.alternative ts).isCompound = true := decide_eq_true hlength
    exact ⟨_, by rw [Term.render, hrender]; rfl, ⟨_, hwrites, hnoTerm.append _, hrefuses⟩,
      part_of_whole hwrites hrefuses hcompound (by simp), start_of_compound hcompound⟩
  | @inverse u h ih =>
    obtain ⟨text, hcut⟩ := ih
    have hplain (written : String) : (Term.inverse u).parenthesize written = written :=
      if_neg Bool.false_ne_true
    obtain ⟨ps, hwrites, hnoTerm, hrefuses⟩ := hcut.part true
    rw [if_pos rfl] at hwrites
    refine ⟨"^" ++ u.parenthesize text, by rw [Term.render, hcut.render]; rfl,
      ⟨ps, hwrites, hnoTerm, fun hdouble bound hbound => ?_⟩, fun inverse => ?_, ?_⟩
    · exact path_refuses_of_step (fun b hb => hrefuses hdouble b hb) hbound
    · rw [hplain]
      cases inverse with
      | false => exact ⟨ps, by simpa using hwrites, hnoTerm, hrefuses⟩
      | true =>
        obtain ⟨qs, hinner, -⟩ := hcut.part false
        rw [if_neg (by decide), String.empty_append] at hinner
        -- the two carets become one token, which starts no step of a path
        refine ⟨.exact .datatypeMark "^^" :: qs, ?_, ⟨_, _, rfl, fun t ht => by simp [Token.NoTerm, ht.1]⟩,
          fun _ bound _ => pathStep_refuses_mark _ qs⟩
        have htext : "^" ++ ("^" ++ u.parenthesize text) = "^^" ++ u.parenthesize text := by simp [String.ext_iff]
        rw [if_pos rfl, htext]
        exact writes_mark.before hinner
    · rw [hplain]
      exact ⟨'^', (u.parenthesize text).toList, by simp, by decide⟩

end

/-! ### Predicates that are read back -/

/-- The text is cut into tokens, and the parser of paths takes all of them and gives the path. The prefixes are those of
the scope. -/
def ReadsAsPath (scope : Scope) (text : String) (t : Term) : Prop :=
  ∃ ts after, tokens text.toList = .ok ts ∧
    path (ts.length + 2) { ahead := ts, last := .eof text.length, scope } = (.ok t, after) ∧ after.ahead = []

section

variable {t : Term} {text : String} {ts : List Token} {ps : List Piece}

private theorem ready_start (scope : Scope) (ts : List Token) (last : Token) :
    Ready scope.prefixIri? 0 { ahead := ts, last, scope } :=
  ⟨fun _ => rfl, by simp⟩

private theorem readsAsPath_of_phrase {scope : Scope} (htokens : tokens text.toList = .ok ts) (path : Phrase.Path)
    (hterm : pathTerm (path.terms scope.prefixIri?) = t) (hfits : path.Fits scope.prefixIri?)
    (hmatches : List.Forall₂ Piece.Matches path.pieces ts) (hmarkers : markers path.pieces = 0) :
    ReadsAsPath scope text t := by
  have hlength : path.pieces.length < ts.length + 2 := by
    rw [hmatches.length_eq]
    omega
  have hend : Token.EndsPath (.eof text.length) := ⟨rfl, by simp [Token.eof], by simp [Token.eof]⟩
  obtain ⟨after, hread, hmoves, -⟩ := path_reads (ts.length + 2) path hfits hlength
    { ahead := ts, last := .eof text.length, scope } [] (hmarkers ▸ ready_start scope ts _) (ahead_of_forall₂ hmatches) hend
  exact ⟨ts, after, htokens, by rw [hread, hterm], hmoves.ahead⟩

end

/-- A predicate of a query that is no variable can be written, and its written form is read back as the predicate: the
parser of paths takes all its tokens. The only exception are paths with an inverse right inside an inverse. -/
theorem renderPredicate_reread {text : List Char} {s : Scope} (hparse : parse text = .ok s) {p : Pattern}
    (hp : p ∈ s.patterns) (hpath : ∀ x, p.predicate ≠ .var x) (scope : Scope) :
    ∃ written, p.predicate.renderPredicate = .ok written ∧
      (ReadsAsPath scope written p.predicate ↔ hasDoubleInverse p.predicate = false) := by
  have hshape : PathShape p.predicate := by
    rcases ((parse_shaped hparse).patterns p hp).predicate with ⟨x, hx, -⟩ | h
    · exact absurd hx (hpath x)
    · exact h
  generalize p.predicate = t at hshape
  rw [Term.renderPredicate]
  split
  next htype =>
    obtain rfl : t = .type := by
      cases t with
      | iri iri => exact congrArg Term.iri (of_decide_eq_true htype)
      | _ => cases htype
    -- the type is written as a word, and this word is a path
    refine ⟨"a", rfl, iff_of_true ?_ rfl⟩
    have htokens : tokens "a".toList = .ok [⟨.word, "a", 0, 1⟩] := by rfl
    exact readsAsPath_of_phrase htokens (.last (.last (.type false))) (by rfl)
      (by simp [Path.Fits, Steps.Fits, Step.Fits]) (.cons ⟨rfl, rfl⟩ .nil) (by rfl)
  next =>
    cases hinverse : hasDoubleInverse t with
    | false =>
      obtain ⟨written, hrender, -, path, hterm, hfits, hwrites⟩ := path_written hshape hinverse scope.prefixIri?
      obtain ⟨ts, htokens, hmatches⟩ := hwrites.yields.tokens
      exact ⟨written, hrender,
        iff_of_true (readsAsPath_of_phrase htokens path hterm hfits hmatches hwrites.yields.markers) rfl⟩
    | true =>
      obtain ⟨written, hcut⟩ := hshape.cut scope.prefixIri?
      obtain ⟨ps, hwrites, -, hrefuses⟩ := hcut.whole
      refine ⟨written, hcut.render, iff_of_false ?_ (by simp)⟩
      -- the text has only one reading as tokens, and the parser refuses it
      rintro ⟨ts, after, htokens, hread, -⟩
      obtain ⟨ts', htokens', hmatches⟩ := hwrites.yields.tokens
      obtain rfl : ts' = ts := Except.ok.inj (htokens'.symm.trans htokens)
      have hlength : ps.length < ts'.length + 2 := by
        rw [hmatches.length_eq]
        omega
      obtain ⟨e, stopped, hfail⟩ := hrefuses hinverse _ hlength
        { ahead := ts', last := .eof written.length, scope } [] (hwrites.yields.markers ▸ ready_start scope ts' _)
        (ahead_of_forall₂ hmatches)
      rw [hfail] at hread
      cases hread

/-- A path walked backward twice is written with two carets in a row, which is no path. -/
theorem renderPredicate_reread_twice : ∃ s, parse "SELECT * \x7b ?s ^(^<p>) ?o \x7d".toList = .ok s ∧
    ∃ p ∈ s.patterns, p.predicate.renderPredicate = .ok "^^<p>" ∧ ¬ReadsAsPath {} "^^<p>" p.predicate := by
  have hread : ((parse "SELECT * \x7b ?s ^(^<p>) ?o \x7d".toList).toOption.map fun s => s.patterns.map fun p =>
      (p.predicate.isPath, hasDoubleInverse p.predicate, p.predicate.renderPredicate.toOption)) =
      some [(true, true, some "^^<p>")] := by decide +kernel
  cases hparse : parse "SELECT * \x7b ?s ^(^<p>) ?o \x7d".toList with
  | error e =>
    rw [hparse] at hread
    cases hread
  | ok s =>
    simp only [hparse, Except.toOption, Option.map_some, Option.some.injEq] at hread
    obtain ⟨p, hpatterns, hp⟩ := List.map_eq_singleton_iff.1 hread
    have hmem : p ∈ s.patterns := by simp [hpatterns]
    simp only [Prod.mk.injEq] at hp
    obtain ⟨hpath, hdouble, hwritten⟩ := hp
    have hvar : ∀ x, p.predicate ≠ .var x := by
      intro x hx
      rw [hx] at hpath
      cases hpath
    obtain ⟨written, hrender, hiff⟩ := renderPredicate_reread hparse hmem hvar {}
    rw [hrender] at hwritten
    obtain rfl : written = "^^<p>" := Option.some.inj hwritten
    refine ⟨s, rfl, p, hmem, hrender, fun h => ?_⟩
    rw [hiff.1 h] at hdouble
    cases hdouble

end PointOfFocus.Query
