import PointOfFocus.Proofs.Query.Stream
import PointOfFocus.Proofs.Query.Variant

/-!
# Brackets that are skipped

The parser skips a bracket by a run over the tokens that keeps the closing brackets it awaits. What it takes can be said
without such a list: it is the shortest start of the tokens whose brackets match (`ShortestBalanced`). If there is none,
then some closing bracket is not the one that the innermost open bracket awaits (`FirstMismatch`), or the first bracket
is open to the end (`skipBrackets_outcome`).

The run is described by the tokens that it has taken: the brackets that are open after them are those it awaits
(`Opened`). That only one bracket is the innermost that is open is seen by counting (`Awaits.unique`).
-/

namespace PointOfFocus.Query

/-! ### Brackets that are open -/

/-- The innermost bracket that is open after the tokens awaits the symbol: the brackets behind it match. -/
def Awaits (ts : List Token) (x : Symbol) : Prop :=
  ∃ before opening inner, ts = before ++ opening :: inner ∧ opening.closing? = some x ∧ Balanced inner

/-- The token in the place is a closing bracket, but not the one that the innermost open bracket awaits. -/
structure Mismatch (ts : List Token) (place : Nat) (t : Token) : Prop where
  token : ts[place]? = some t
  closes : ∃ x y, t.kind = .symbol x ∧ x.isClosing = true ∧ Awaits (ts.take place) y ∧ x ≠ y

/-- There is no such closing bracket before it. -/
structure FirstMismatch (ts : List Token) (place : Nat) (t : Token) : Prop extends Mismatch ts place t where
  first : ∀ earlier u, earlier < place → ¬ Mismatch ts earlier u

/-- The brackets of the first so many tokens match, and those of no shorter start do, unless it is empty. -/
structure ShortestBalanced (ts : List Token) (count : Nat) : Prop where
  pos : 0 < count
  le : count ≤ ts.length
  balanced : Balanced (ts.take count)
  shortest : ∀ fewer, 0 < fewer → fewer < count → ¬ Balanced (ts.take fewer)

/-- Brackets that are open after the tokens await the symbols, the innermost one first. All other brackets match. -/
inductive Opened : List Symbol → List Token → Prop
  | none {inner : List Token} (hinner : Balanced inner) : Opened [] inner
  | bracket {awaited : List Symbol} {before inner : List Token} {opening : Token} {x : Symbol}
    (hbefore : Opened awaited before) (hopening : opening.closing? = some x) (hinner : Balanced inner) :
    Opened (x :: awaited) (before ++ opening :: inner)

private theorem Balanced.append {ts us : List Token} (h : Balanced ts) (h' : Balanced us) : Balanced (ts ++ us) := by
  induction h with
  | nil => exact h'
  | token ht _ ih => exact .token ht ih
  | bracket hopening hclosing hinner _ _ ih =>
    rw [List.append_assoc, List.cons_append]
    exact .bracket hopening hclosing hinner ih

private theorem Opened.append {awaited : List Symbol} {ts us : List Token} (h : Opened awaited ts) (hus : Balanced us) :
    Opened awaited (ts ++ us) := by
  cases h with
  | none hinner => exact .none (hinner.append hus)
  | bracket hbefore hopening hinner =>
    rw [List.append_assoc, List.cons_append]
    exact .bracket hbefore hopening (hinner.append hus)

private theorem Opened.close {awaited : List Symbol} {x : Symbol} {ts : List Token} {closing : Token}
    (h : Opened (x :: awaited) ts) (hclosing : closing.kind = .symbol x) : Opened awaited (ts ++ [closing]) := by
  cases h with
  | bracket hbefore hopening hinner =>
    rw [List.append_assoc, List.cons_append]
    exact hbefore.append (.bracket hopening hclosing hinner .nil)

private theorem Opened.awaits {awaited : List Symbol} {x : Symbol} {ts : List Token} (h : Opened (x :: awaited) ts) :
    Awaits ts x := by
  cases h with
  | bracket _ hopening hinner => exact ⟨_, _, _, rfl, hopening, hinner⟩

/-- How many more brackets the token opens than it closes. -/
def Token.weight (t : Token) : Int :=
  if t.closing?.isSome then 1 else if t.isBracket then -1 else 0

/-- How many more brackets the tokens open than they close. -/
def surplus : List Token → Int
  | [] => 0
  | t :: ts => t.weight + surplus ts

private theorem surplus_cons (t : Token) (ts : List Token) : surplus (t :: ts) = t.weight + surplus ts := rfl

private theorem surplus_append (ts us : List Token) : surplus (ts ++ us) = surplus ts + surplus us := by
  induction ts with
  | nil => exact (Int.zero_add _).symm
  | cons t ts ih => rw [List.cons_append, surplus_cons, surplus_cons, ih, Int.add_assoc]

private theorem Token.weight_plain {t : Token} (h : t.isBracket = false) : t.weight = 0 := by
  have hopening : t.closing? = none := by
    cases hclosing : t.closing? with
    | none => rfl
    | some x =>
      obtain ⟨y, hkind, hy⟩ := Token.kind_of_closing? hclosing
      simp [Token.isBracket, hkind, hy] at h
  simp [Token.weight, hopening, h]

private theorem Token.weight_opening {t : Token} {x : Symbol} (h : t.closing? = some x) : t.weight = 1 := by
  simp [Token.weight, h]

private theorem Token.weight_closing {t : Token} {x : Symbol} (h : t.kind = .symbol x) (hx : x.isClosing = true) :
    t.weight = -1 := by
  simp [Token.weight, Token.closing?, Token.isBracket, h, hx, closing?_of_isClosing hx]

/-- Where the brackets match, as many are closed as opened, and behind any place no more are opened than closed. -/
private theorem Balanced.surplus {ts : List Token} (h : Balanced ts) :
    Query.surplus ts = 0 ∧ ∀ us, us <:+ ts → Query.surplus us ≤ 0 := by
  induction h with
  | nil => exact ⟨rfl, fun us hus => by simp [List.suffix_nil.1 hus, Query.surplus]⟩
  | @token t ts ht _ ih =>
    have hwhole : Query.surplus (t :: ts) = 0 := by rw [surplus_cons, Token.weight_plain ht, ih.1, Int.add_zero]
    refine ⟨hwhole, fun us hus => ?_⟩
    rcases List.suffix_cons_iff.1 hus with rfl | hus
    · exact Int.le_of_eq hwhole
    · exact ih.2 us hus
  | @bracket opening closing x inner rest hopening hclosing _ _ ihinner ihrest =>
    obtain ⟨_, _, hx⟩ := Token.kind_of_closing? hopening
    have hends := Token.weight_closing hclosing (isClosing_of_closing? hx)
    have hclosed : Query.surplus (closing :: rest) = -1 := by rw [surplus_cons, hends, ihrest.1]; rfl
    have hwhole : Query.surplus (opening :: inner ++ closing :: rest) = 0 := by
      rw [surplus_append, surplus_cons, Token.weight_opening hopening, ihinner.1, hclosed]
      rfl
    refine ⟨hwhole, fun us hus => ?_⟩
    rw [List.cons_append] at hus hwhole
    rcases List.suffix_cons_iff.1 hus with rfl | hus
    · exact Int.le_of_eq hwhole
    obtain ⟨front, hfront⟩ := hus
    -- the end begins inside the brackets, where their closing one is still to come, or behind them
    rcases List.append_eq_append_iff.1 hfront with ⟨vs, hinner, rfl⟩ | ⟨vs, -, hrest⟩
    · have hle := ihinner.2 vs ⟨front, hinner.symm⟩
      rw [surplus_append]
      omega
    · rcases List.suffix_cons_iff.1 ⟨vs, hrest.symm⟩ with rfl | hus
      · omega
      · exact ihrest.2 us hus

/-- Only one bracket is the innermost that is open. -/
theorem Awaits.unique {ts : List Token} {x y : Symbol} (h : Awaits ts x) (h' : Awaits ts y) : x = y := by
  have hone {t : Token} {z : Symbol} {us : List Token} (ht : t.closing? = some z) (hus : Balanced us) :
      surplus (t :: us) = 1 := by
    rw [surplus_cons, Token.weight_opening ht, hus.surplus.1]
    rfl
  obtain ⟨before, opening, inner, rfl, hopening, hinner⟩ := h
  obtain ⟨before', opening', inner', hsame, hopening', hinner'⟩ := h'
  -- the longer of the two ends has the other one inside, and there more is opened than closed
  rcases List.append_eq_append_iff.1 hsame with ⟨us, -, hends⟩ | ⟨us, -, hends⟩
  · cases us with
    | nil =>
      cases hends
      exact Option.some.inj (hopening.symm.trans hopening')
    | cons u us =>
      have hle := hinner.surplus.2 (opening' :: inner') ⟨us, (List.cons.inj hends).2.symm⟩
      rw [hone hopening' hinner'] at hle
      omega
  · cases us with
    | nil =>
      cases hends
      exact Option.some.inj (hopening.symm.trans hopening')
    | cons u us =>
      have hle := hinner'.surplus.2 (opening :: inner) ⟨us, (List.cons.inj hends).2.symm⟩
      rw [hone hopening hinner] at hle
      omega

/-! ### What skipping does -/

private theorem ShortestBalanced.unique {ts : List Token} {count count' : Nat} (h : ShortestBalanced ts count)
    (h' : ShortestBalanced ts count') : count = count' := by
  rcases Nat.lt_trichotomy count count' with hlt | heq | hlt
  · exact absurd h.balanced (h'.shortest _ h.pos hlt)
  · exact heq
  · exact absurd h'.balanced (h.shortest _ h'.pos hlt)

private theorem Mismatch.lt {ts : List Token} {place : Nat} {t : Token} (h : Mismatch ts place t) : place < ts.length :=
  (List.getElem?_eq_some_iff.1 h.token).1

/-- What the tokens say of skipping on from those that were taken: in the end the brackets of all that was taken match,
or the fault is at the first mismatch, up to which the tokens are taken, or at the opening bracket if there is none, and
then no token is left. -/
def Explained (opening : Token) (ts taken rest : List Token) : Except (Error × List Token) (List Token) → Prop
  | .ok after => ∃ more, rest = more ++ after ∧ Balanced (taken ++ more)
  | .error fault =>
    (∃ place t, FirstMismatch ts place t ∧ fault = (.at t.start (.unexpectedClosing t.text), ts.drop (place + 1))) ∨
      (∀ place t, ¬ Mismatch ts place t) ∧ fault = (.at opening.start (.unbalanced opening.text), [])

section

variable {opening t : Token} {ts taken rest : List Token} {awaited : List Symbol} {x : Symbol}

private theorem Explained.cons {result : Except (Error × List Token) (List Token)}
    (h : Explained opening ts (taken ++ [t]) rest result) : Explained opening ts taken (t :: rest) result := by
  cases result with
  | error fault => exact h
  | ok after =>
    obtain ⟨more, rfl, hbalanced⟩ := h
    exact ⟨t :: more, rfl, by rwa [List.append_assoc] at hbalanced⟩

private theorem Opened.isClosing (h : Opened (x :: awaited) ts) : x.isClosing = true := by
  cases h with
  | bracket _ hopening _ =>
    obtain ⟨_, _, hx⟩ := Token.kind_of_closing? hopening
    exact isClosing_of_closing? hx

/-- There is no mismatch up to a token that either closes no bracket, or closes the one that is awaited. -/
private theorem matched_succ (hts : ts = taken ++ t :: rest)
    (hmatched : ∀ place u, place < taken.length → ¬ Mismatch ts place u)
    (ht : ∀ y, t.kind = .symbol y → y.isClosing = true → Awaits taken y) :
    ∀ place u, place < (taken ++ [t]).length → ¬ Mismatch ts place u := by
  intro place u hplace hmismatch
  rw [List.length_append, List.length_singleton] at hplace
  rcases Nat.lt_or_eq_of_le (Nat.le_of_lt_succ hplace) with hlt | rfl
  · exact hmatched place u hlt hmismatch
  · obtain ⟨y, z, hkind, hcloses, hawaits, hne⟩ := hmismatch.closes
    have htoken := hmismatch.token
    rw [hts, List.getElem?_append_right (Nat.le_refl _), Nat.sub_self, List.getElem?_cons_zero] at htoken
    rw [hts, List.take_left] at hawaits
    obtain rfl := Option.some.inj htoken
    exact hne ((ht y hkind hcloses).unique hawaits)

/-- One token after the other, the brackets that are open are those that the run awaits. -/
private theorem afterBrackets_explained (hts : ts = taken ++ rest) (hopened : Opened awaited taken)
    (hmatched : ∀ place u, place < taken.length → ¬ Mismatch ts place u) :
    Explained opening ts taken rest (afterBrackets opening awaited rest) := by
  -- The tokens that were taken and the brackets that they leave open are the invariant.
  induction rest generalizing taken awaited with
  | nil =>
    cases hopened with
    | none hinner => exact ⟨[], rfl, by rwa [List.append_nil]⟩
    | bracket =>
      refine .inr ⟨fun place u hmismatch => hmatched place u ?_ hmismatch, rfl⟩
      rw [← List.append_nil (_ ++ _), ← hts]
      exact hmismatch.lt
  | cons t rest ih =>
    have hnext : ts = taken ++ [t] ++ rest := by rw [hts, List.append_assoc, List.singleton_append]
    cases awaited with
    | nil =>
      cases hopened with
      | none hinner => exact ⟨[], rfl, by rwa [List.append_nil]⟩
    | cons x awaited =>
      rcases t.bracket_cases with hplain | ⟨y, hy⟩ | ⟨y, hkind, hy, hcloses⟩
      · rw [afterBrackets_plain hplain hopened.isClosing]
        refine (ih hnext (hopened.append (.token hplain .nil)) (matched_succ hts hmatched fun y hkind hcloses => ?_)).cons
        simp [Token.isBracket, hkind, hcloses] at hplain
      · rw [afterBrackets_opening hy]
        refine (ih hnext (hopened.bracket hy .nil) (matched_succ hts hmatched fun z hkind hcloses => ?_)).cons
        simp [Token.closing?, hkind, closing?_of_isClosing hcloses] at hy
      · by_cases hyx : y = x
        · subst hyx
          rw [afterBrackets_closing hkind hcloses]
          refine (ih hnext (hopened.close hkind) (matched_succ hts hmatched fun z hkind' _ => ?_)).cons
          obtain rfl : y = z := Kind.symbol.inj (hkind.symm.trans hkind')
          exact hopened.awaits
        · -- the first closing bracket that does not fit
          have hfault : afterBrackets opening (x :: awaited) (t :: rest) =
              .error (.at t.start (.unexpectedClosing t.text), rest) := by
            simp only [afterBrackets, hkind, hy, hyx, hcloses, ↓reduceIte]
          have hleft : ts.drop (taken.length + 1) = rest := by
            rw [hnext]
            exact List.drop_left' (by rw [List.length_append, List.length_singleton])
          rw [hfault, ← hleft]
          refine .inl ⟨taken.length, t, ⟨⟨?_, y, x, hkind, hcloses, ?_, hyx⟩, fun earlier u => hmatched earlier u⟩, rfl⟩
          · rw [hts, List.getElem?_append_right (Nat.le_refl _), Nat.sub_self, List.getElem?_cons_zero]
          · rw [hts, List.take_left]
            exact hopened.awaits

end

/-- Tokens that start with an opening bracket go on up to the closing one if the brackets match. -/
private theorem Balanced.of_opening {opening : Token} {x : Symbol} {ts : List Token} (h : Balanced (opening :: ts))
    (hopening : opening.closing? = some x) :
    ∃ inner closing rest, ts = inner ++ closing :: rest ∧ Balanced inner ∧ closing.kind = .symbol x := by
  generalize hwhole : opening :: ts = whole at h
  cases h with
  | nil => cases hwhole
  | token ht _ =>
    cases hwhole
    obtain ⟨y, hkind, hy⟩ := Token.kind_of_closing? hopening
    simp [Token.isBracket, hkind, hy] at ht
  | bracket hopening' hclosing hinner _ =>
    cases hwhole
    obtain rfl := Option.some.inj (hopening.symm.trans hopening')
    exact ⟨_, _, _, rfl, hinner, hclosing⟩

section

variable {opening : Token} {x : Symbol} {rest : List Token}

/-- Where a start of the tokens has brackets that match, it is long enough to be skipped. -/
private theorem afterBrackets_of_balanced (hopening : opening.closing? = some x) {count : Nat} (hpos : 0 < count)
    (h : Balanced ((opening :: rest).take count)) :
    ∃ after, afterBrackets opening [x] rest = .ok after ∧ rest.length + 1 ≤ after.length + count := by
  obtain ⟨n, rfl⟩ := Nat.exists_eq_succ_of_ne_zero (Nat.ne_of_gt hpos)
  rw [List.take_succ_cons] at h
  obtain ⟨inner, closing, more, htake, hinner, hclosing⟩ := h.of_opening hopening
  obtain ⟨_, _, hx⟩ := Token.kind_of_closing? hopening
  have hrest : rest = inner ++ closing :: (more ++ rest.drop n) := by
    rw [← List.cons_append, ← List.append_assoc, ← htake, List.take_append_drop]
  refine ⟨more ++ rest.drop n, ?_, ?_⟩
  · conv_lhs => rw [hrest]
    rw [afterBrackets_contents hinner hclosing (isClosing_of_closing? hx), afterBrackets]
  · rw [List.length_append, List.length_drop]
    omega

/-- After the opening bracket only that one is open. -/
private theorem afterBrackets_opened (hopening : opening.closing? = some x) :
    Explained opening (opening :: rest) [opening] rest (afterBrackets opening [x] rest) := by
  have hopened : Opened [x] [opening] := Opened.bracket (.none .nil) hopening .nil
  refine afterBrackets_explained rfl hopened fun place t hplace hmismatch => ?_
  -- nothing is open before the first token
  obtain ⟨_, _, _, _, ⟨_, _, _, hempty, _⟩, _⟩ := hmismatch.closes
  rw [Nat.lt_one_iff.1 hplace] at hempty
  simp at hempty

/-- What is skipped is the shortest start of the tokens whose brackets match. -/
private theorem shortestBalanced_of_afterBrackets (hopening : opening.closing? = some x) {after : List Token}
    (h : afterBrackets opening [x] rest = .ok after) :
    ∃ count, ShortestBalanced (opening :: rest) count ∧ (opening :: rest).drop count = after ∧
      count + after.length = rest.length + 1 := by
  have hexplained : Explained opening (opening :: rest) [opening] rest _ := afterBrackets_opened hopening
  rw [h] at hexplained
  obtain ⟨more, rfl, hbalanced⟩ := hexplained
  have hlength : (more ++ after).length = more.length + after.length := List.length_append
  refine ⟨more.length + 1, ⟨Nat.succ_pos _, ?_, ?_, fun fewer hpos hfewer hfewerBalanced => ?_⟩, ?_, by omega⟩
  · rw [List.length_cons]
    omega
  · rwa [List.take_succ_cons, List.take_left]
  · obtain ⟨after', hafter, hle⟩ := afterBrackets_of_balanced hopening hpos hfewerBalanced
    obtain rfl := Except.ok.inj (h.symm.trans hafter)
    omega
  · rw [List.drop_succ_cons, List.drop_left]

private theorem skipBrackets_eq {s : State} (hahead : s.ahead = opening :: rest)
    (hopening : opening.closing? = some x) : skipBrackets s = match afterBrackets opening [x] rest with
      | .ok after => (.ok (), { s with ahead := after })
      | .error (e, left) => (.error e, { s with ahead := left }) := by
  have htoken : s.token = opening := by rw [State.token, hahead, List.headD_cons]
  simp only [skipBrackets, bind_apply, advance_apply, htoken, hopening, Option.toList_some, get_apply, hahead,
    List.tail_cons]
  cases afterBrackets opening [x] rest <;> rfl

/-- If no start of the tokens has brackets that match, the tokens are taken up to the first closing bracket that is not
the one awaited there, which is the fault, or all of them if there is no such bracket, and then the fault is at the
opening one. -/
theorem skipBrackets_fault {s : State} (hahead : s.ahead = opening :: rest) (hopening : opening.closing?.isSome)
    (h : ∀ count, ¬ ShortestBalanced s.ahead count) :
    (∃ place t, FirstMismatch s.ahead place t ∧ skipBrackets s =
        (.error (.at t.start (.unexpectedClosing t.text)), { s with ahead := s.ahead.drop (place + 1) })) ∨
      (∀ place t, ¬ Mismatch s.ahead place t) ∧
        skipBrackets s = (.error (.at opening.start (.unbalanced opening.text)), { s with ahead := [] }) := by
  obtain ⟨x, hx⟩ := Option.isSome_iff_exists.1 hopening
  rw [skipBrackets_eq hahead hx]
  rw [hahead] at h ⊢
  have hexplained : Explained opening (opening :: rest) [opening] rest _ := afterBrackets_opened hx
  cases hresult : afterBrackets opening [x] rest with
  | ok after =>
    obtain ⟨count, hshortest, -⟩ := shortestBalanced_of_afterBrackets hx hresult
    exact absurd hshortest (h count)
  | error fault =>
    rw [hresult] at hexplained
    obtain ⟨place, t, hfirst, rfl⟩ | ⟨hnone, rfl⟩ := hexplained
    · exact .inl ⟨place, t, hfirst, rfl⟩
    · exact .inr ⟨hnone, rfl⟩

/-- Skipping takes the shortest start of the tokens whose brackets match, and nothing else. If there is none, the fault
is at the first closing bracket that is not the one awaited there; if there is no such bracket, all tokens up to the end
are read, and the fault is at the opening one. -/
theorem skipBrackets_outcome {s : State} (hahead : s.ahead = opening :: rest) (hopening : opening.closing?.isSome) :
    (∀ count, skipBrackets s = (.ok (), { s with ahead := s.ahead.drop count }) ∧ count ≤ s.ahead.length ↔
        ShortestBalanced s.ahead count) ∧
      ((∀ count, ¬ ShortestBalanced s.ahead count) →
        (∃ place t, FirstMismatch s.ahead place t ∧
          (skipBrackets s).1 = .error (.at t.start (.unexpectedClosing t.text))) ∨
        (∀ place t, ¬ Mismatch s.ahead place t) ∧
          (skipBrackets s).1 = .error (.at opening.start (.unbalanced opening.text))) := by
  obtain ⟨x, hx⟩ := Option.isSome_iff_exists.1 hopening
  refine ⟨fun count => ?_, fun hnone => ?_⟩
  · rw [skipBrackets_eq hahead hx, hahead]
    constructor
    · rintro ⟨hsame, hle⟩
      cases hresult : afterBrackets opening [x] rest with
      | error fault =>
        rw [hresult] at hsame
        cases hsame
      | ok after =>
        obtain ⟨taken, hshortest, hdrop, hlength⟩ := shortestBalanced_of_afterBrackets hx hresult
        -- what is left determines how much was taken
        rw [hresult] at hsame
        have hafter := congrArg (fun run => run.2.ahead.length) hsame
        rw [List.length_cons] at hle
        simp only [List.length_drop, List.length_cons] at hafter
        rwa [show count = taken by omega]
    · intro h
      obtain ⟨after, hafter, -⟩ := afterBrackets_of_balanced hx h.pos h.balanced
      obtain ⟨taken, hshortest, hdrop, -⟩ := shortestBalanced_of_afterBrackets hx hafter
      obtain rfl := h.unique hshortest
      rw [hafter, hdrop]
      exact ⟨rfl, h.le⟩
  · refine (skipBrackets_fault hahead hopening hnone).imp ?_ ?_
    · rintro ⟨place, t, hfirst, hrun⟩
      exact ⟨place, t, hfirst, by rw [hrun]⟩
    · rintro ⟨hmatched, hrun⟩
      exact ⟨hmatched, by rw [hrun]⟩

end

/-- Parentheses and brackets that cross each other: no start of them matches, and the first mismatch is the parenthesis
that closes while a bracket is open. -/
theorem skipBrackets_outcome_crossed :
    let s : State :=
      { ahead := [⟨.symbol .openParen, "(", 0, 1⟩, ⟨.symbol .openBracket, "[", 1, 2⟩, ⟨.var, "?x", 2, 4⟩,
          ⟨.symbol .closeParen, ")", 4, 5⟩, ⟨.symbol .closeBracket, "]", 5, 6⟩],
        last := .eof 6, scope := {} }
    (∀ count, ¬ ShortestBalanced s.ahead count) ∧ ∃ place t, FirstMismatch s.ahead place t ∧ t.start = 4 := by
  intro s
  have hrun : (skipBrackets s).1 = .error (.at 4 (.unexpectedClosing ")")) := rfl
  obtain ⟨htakes, hfails⟩ := skipBrackets_outcome (s := s) rfl rfl
  have hnone : ∀ count, ¬ ShortestBalanced s.ahead count := by
    intro count h
    rw [((htakes count).2 h).1] at hrun
    cases hrun
  refine ⟨hnone, ?_⟩
  rcases hfails hnone with ⟨place, t, hfirst, hfault⟩ | ⟨-, hfault⟩
  · rw [hrun, Except.error.injEq, Error.at.injEq] at hfault
    exact ⟨place, t, hfirst, hfault.1.symm⟩
  · rw [hrun] at hfault
    cases hfault

end PointOfFocus.Query
