import PointOfFocus.Proofs.Query.Occurrence
import PointOfFocus.Proofs.Query.Shape
import PointOfFocus.Scope.Recommendation

/-!
# One point of focus

What a scope says of the point of focus right after a text was read, if the text itself has no variable with the name
of the focus. The variable of the focus stands in the patterns if and only if a marker was read as a term, and only in
the place in which it was read; the scope holds the hint of the marker and nothing else; and the kind of recommendation
is the one that the place and the hint of the marker ask for (`parse_marker`).
-/

namespace PointOfFocus.Query

open PointOfFocus.Rdf

/-- The marker that is read as a term when the text is read, with its place. -/
def markerOf (text : List Char) : Option Marker :=
  match tokens text with
  | .error _ => none
  | .ok ts => (query (ts.length + 2) { ahead := ts, last := .eof text.length, scope := {} }).2.focus

/-- The variables among the tokens of the text. -/
def writtenVariables (text : List Char) : List String :=
  match tokens text with
  | .error _ => []
  | .ok ts => (ts.filter (·.kind = .var)).map fun t => dropFirst 1 t.text

/-- Reading the text leads from the start to the end of a walk. -/
private theorem parse_walks {text : List Char} {s : Scope} (h : parse text = .ok s) {x : String}
    (hwritten : x ∉ writtenVariables text) (hfiller : x ≠ "FillVar") (hmadeUp : ∀ n : Nat, x ≠ "_anon" ++ n.repr) :
    ∃ start after, start.focus = none ∧ start.scope = {} ∧ after.focus = markerOf text ∧ after.scope = s ∧
      Walk x start after s.patterns (tally x s.patterns) := by
  unfold parse parseInto at h
  cases htokens : tokens text with
  | error e => rw [htokens] at h; cases h
  | ok ts =>
    simp only [htokens, parseTokens] at h
    have hforeign : Foreign x { ahead := ts, last := .eof text.length, scope := {} } := by
      refine ⟨fun t ht hkind hname => hwritten ?_, rfl, hfiller, hmadeUp⟩
      simp only [writtenVariables, htokens, List.mem_map, List.mem_filter]
      exact ⟨t, ⟨ht, decide_eq_true hkind⟩, hname⟩
    cases hrun : query (ts.length + 2) { ahead := ts, last := .eof text.length, scope := {} } with
    | mk result after =>
      rw [hrun] at h
      cases result with
      | error e => cases h
      | ok u =>
        cases h
        obtain ⟨new, hwalk⟩ := query_walks _ _ hforeign u after hrun
        have hpatterns : after.scope.patterns = new := by simpa using hwalk.patterns
        have hmarker : after.focus = markerOf text := by simp only [markerOf, htokens, hrun]
        exact ⟨{ ahead := ts, last := .eof text.length, scope := {} }, after, rfl, rfl, hmarker, rfl, hpatterns ▸ hwalk⟩

/-- A variable that is neither written nor made up stands in the patterns only as the point of focus. -/
theorem parse_accounts {text : List Char} {s : Scope} (h : parse text = .ok s) {x : String}
    (hwritten : x ∉ writtenVariables text) (hfiller : x ≠ "FillVar") (hmadeUp : ∀ n : Nat, x ≠ "_anon" ++ n.repr) :
    Accounts x none (markerOf text) (tally x s.patterns) := by
  obtain ⟨start, after, hnone, _, hmarker, _, hwalk⟩ := parse_walks h hwritten hfiller hmadeUp
  have haccounts := hwalk.accounts
  rwa [hnone, hmarker] at haccounts

private theorem isVarName_of_written {text : List Char} {x : String} (h : x ∈ writtenVariables text) : IsVarName x := by
  unfold writtenVariables at h
  cases htokens : tokens text with
  | error e => simp [htokens] at h
  | ok ts =>
    simp only [htokens, List.mem_map, List.mem_filter, decide_eq_true_eq] at h
    obtain ⟨t, ⟨ht, hkind⟩, rfl⟩ := h
    have hshape := tokens_shaped htokens t ht
    simp only [TokenShape, hkind] at hshape
    obtain ⟨mark, x, htext, hx⟩ := hshape
    rwa [htext, dropFirst_mark]

theorem isVarChar_mark : isVarChar '?' = false := by decide

/-- The scope holds the hint of the marker, and a predicate that is the point of focus is in a pattern. -/
theorem parse_hinted {text : List Char} {s : Scope} (h : parse text = .ok s) : Hinted (markerOf text) s ∧
    ∀ m ∈ markerOf text, m.role = .predicate → ∃ p ∈ s.patterns, p.predicate = .focus := by
  -- neither depends on a variable, so any name that no variable has will do
  have hwritten : "?" ∉ writtenVariables text := by
    intro hmem
    have hchar := (isVarName_of_written hmem).2 '?' (by simp)
    rw [isVarChar_mark] at hchar
    cases hchar
  have hmadeUp : ∀ n : Nat, "?" ≠ "_anon" ++ n.repr := by
    intro n hname
    have hhead := congrArg (·.toList.head?) hname
    simp at hhead
  obtain ⟨start, after, hnone, hempty, hmarker, rfl, hwalk⟩ := parse_walks h hwritten (by decide) hmadeUp
  have hstart : Hinted start.focus start.scope := by
    rw [hnone, hempty]
    rfl
  have hled : Led start := by
    intro m hm
    rw [hnone] at hm
    cases hm
  rw [← hmarker]
  exact ⟨hwalk.hints hstart, (hwalk.leads hled).resolve_right id⟩

/-- The term stands in one of the patterns. -/
def Occurs (t : Term) (ps : List Pattern) : Prop := ∃ p ∈ ps, ∃ role, p.term role = t

/-- A marker puts no other variable anywhere. -/
theorem Accounts.eq_zero {x : String} {focus : Option Marker} {places : Role → Nat} (h : Accounts x none focus places)
    (hx : x ≠ "POF") : places = 0 := by
  cases h with
  | same => rfl
  | met hfocus _ => exact absurd hfocus hx
  | other _ => rfl

/-- The variables of the patterns are those of the text, of the focus, and those that are made up. -/
theorem parse_variables {text : List Char} {s : Scope} (h : parse text = .ok s) {x : String}
    (hx : Occurs (.var x) s.patterns) :
    x ∈ writtenVariables text ∨ x = "POF" ∨ x = "FillVar" ∨ ∃ n : Nat, x = "_anon" ++ n.repr := by
  by_contra hnone
  simp only [not_or, not_exists] at hnone
  obtain ⟨hwritten, hfocus, hfiller, hmadeUp⟩ := hnone
  have hzero := (parse_accounts h hwritten hfiller hmadeUp).eq_zero hfocus
  obtain ⟨p, hp, role, hrole⟩ := hx
  have hcount : tally x s.patterns role = 0 := congrFun hzero role
  rw [tally, List.countP_eq_zero] at hcount
  exact hcount p hp (isVarNamed_iff.2 hrole)

/-- Without the variable of the focus in the text, the focus stands in the patterns as its marker was read. -/
theorem parse_focus {text : List Char} {s : Scope} (h : parse text = .ok s) (hwritten : "POF" ∉ writtenVariables text) :
    Accounts "POF" none (markerOf text) (tally "POF" s.patterns) := by
  refine parse_accounts h hwritten (by decide) fun n hname => ?_
  have hhead := congrArg (·.toList.head?) hname
  simp at hhead

/-! ### Places of the point of focus -/

private theorem isVarNamed_focus (t : Term) : isVarNamed "POF" t = t.isFocus := by cases t <;> rfl

private theorem tally_focus (ps : List Pattern) (role : Role) :
    tally "POF" ps role = ps.countP fun p => (p.term role).isFocus := by
  simp [tally, isVarNamed_focus]

private theorem isFocus_of_tally {ps : List Pattern} {role : Role} (h : tally "POF" ps role = 0) :
    ∀ p ∈ ps, (p.term role).isFocus = false := by
  intro p hp
  rw [tally_focus, List.countP_eq_zero] at h
  simpa using h p hp

/-- The test for the point of focus. -/
theorem isFocus_iff {t : Term} : t.isFocus = true ↔ t = .focus := by
  rw [← isVarNamed_focus]
  exact isVarNamed_iff

/-- A pattern has the point of focus in the place in which it was read. -/
theorem InRole.exists_focus {role : Role} {ps : List Pattern} (h : InRole role (tally "POF" ps)) :
    ∃ p ∈ ps, (p.term role).isFocus = true := by
  have hpos : 0 < tally "POF" ps role := h.pos
  rwa [tally_focus, List.countP_pos_iff] at hpos

/-- If the point of focus stands in one place of the patterns only, each of its places is that one. -/
theorem InRole.role_eq {role other : Role} {ps : List Pattern} (h : InRole role (tally "POF" ps)) {p : Pattern}
    (hp : p ∈ ps) (hfocus : p.term other = .focus) : other = role := by
  by_contra hne
  exact absurd (isFocus_iff.2 hfocus) (Bool.eq_false_iff.1 (isFocus_of_tally (h.only other hne) p hp))

/-- Without a marker the point of focus stands nowhere. -/
private theorem Accounts.isFocus_eq_false {ps : List Pattern} (h : Accounts "POF" none none (tally "POF" ps)) :
    ∀ p ∈ ps, ∀ role, (p.term role).isFocus = false := by
  generalize hplaces : tally "POF" ps = places at h
  cases h with
  | same => exact fun p hp role => isFocus_of_tally (congrFun hplaces role) p hp

/-- The marker that was read says in which place the point of focus stands. -/
theorem Accounts.inRole {m : Marker} {places : Role → Nat} (h : Accounts "POF" none (some m) places) :
    InRole m.role places := by
  cases h with
  | met _ hrole => exact hrole
  | other hx => exact absurd rfl hx

/-- If all that is found is the same, it is found. -/
private theorem findSome?_eq {α β : Type} {f : α → Option β} {b : β} {l : List α} (hsome : ∃ a ∈ l, f a = some b)
    (hall : ∀ a ∈ l, f a = none ∨ f a = some b) : l.findSome? f = some b := by
  cases hfound : l.findSome? f with
  | none =>
    obtain ⟨a, ha, hfa⟩ := hsome
    rw [List.findSome?_eq_none_iff.1 hfound a ha] at hfa
    cases hfa
  | some c =>
    obtain ⟨a, ha, hfa⟩ := List.exists_of_findSome?_eq_some hfound
    rcases hall a ha with hnone | hb
    · rw [hnone] at hfa
      cases hfa
    · exact hfa.symm.trans hb

/-! ### What the marker asks for -/

/-- The kind of recommendation for the point of focus in the given place; for an object its predicate matters. -/
def Role.recommendation (patterns : List Pattern) : Role → Recommendation
  | .predicate => .predicate
  | .subject => .subject
  | .object => if patterns.any fun p => p.predicate.isType && p.object.isFocus then .cls else .object

/-- The kind of recommendation that the marker asks for by its hint and its place. -/
def Marker.recommendation (m : Marker) (patterns : List Pattern) : Recommendation :=
  match m.token.kind with
  | .focus (.pathLength _) => .path
  | _ => m.role.recommendation patterns

private theorem Marker.recommendation_ne_none (m : Marker) (patterns : List Pattern) :
    m.recommendation patterns ≠ .none := by
  unfold Marker.recommendation Role.recommendation
  split
  · simp
  · split
    · simp
    · simp
    · split <;> simp

/-- A pattern with the point of focus in no other place than the given one asks for what this place asks for. -/
private theorem recommendation?_eq {role : Role} {p : Pattern} (h : ∀ r, r ≠ role → (p.term r).isFocus = false) :
    p.recommendation? = if (p.term role).isFocus then some (role.recommendation [p]) else none := by
  cases role with
  | predicate =>
    have hs : p.subject.isFocus = false := h .subject (by decide)
    have ho : p.object.isFocus = false := h .object (by decide)
    show p.recommendation? = if p.predicate.isFocus then some .predicate else none
    simp [Pattern.recommendation?, hs, ho]
  | subject =>
    have hv : p.predicate.isFocus = false := h .predicate (by decide)
    have ho : p.object.isFocus = false := h .object (by decide)
    show p.recommendation? = if p.subject.isFocus then some .subject else none
    simp [Pattern.recommendation?, hv, ho]
  | object =>
    have hs : p.subject.isFocus = false := h .subject (by decide)
    have hv : p.predicate.isFocus = false := h .predicate (by decide)
    show p.recommendation? = if p.object.isFocus then some (Role.recommendation [p] .object) else none
    by_cases ho : p.object.isFocus = true
    · cases htype : p.predicate.isType <;> simp [Pattern.recommendation?, Role.recommendation, hv, ho, htype]
    · simp [Pattern.recommendation?, hs, hv, ho]

/-- A pattern with the point of focus in the place of the marker asks for what all patterns together ask for. -/
private theorem recommendation_singleton {role : Role} {ps : List Pattern} (h : InRole role (tally "POF" ps))
    {p : Pattern}
    (hp : p ∈ ps) (hfocus : (p.term role).isFocus = true) : role.recommendation [p] = role.recommendation ps := by
  cases role with
  | predicate => rfl
  | subject => rfl
  | object =>
    -- there is no other pattern with the point of focus for its object
    have honce := h.once rfl
    rw [tally_focus, List.countP_eq_length_filter, List.length_eq_one_iff] at honce
    obtain ⟨o, ho⟩ := honce
    have honly : ∀ q ∈ ps, q.object.isFocus = true → q = o := by
      intro q hq hobject
      have hmem : q ∈ ps.filter fun q => (q.term .object).isFocus := List.mem_filter.2 ⟨hq, hobject⟩
      rwa [ho, List.mem_singleton] at hmem
    obtain rfl := honly p hp hfocus
    have hany : (ps.any fun q => q.predicate.isType && q.object.isFocus) =
        ([p].any fun q => q.predicate.isType && q.object.isFocus) := by
      rw [Bool.eq_iff_iff, List.any_eq_true, List.any_eq_true]
      constructor
      · rintro ⟨q, hq, htype⟩
        exact ⟨q, List.mem_singleton.2 (honly q hq (Bool.and_eq_true_iff.1 htype).2), htype⟩
      · rintro ⟨q, hq, htype⟩
        exact ⟨q, List.mem_singleton.1 hq ▸ hp, htype⟩
    rw [Role.recommendation, Role.recommendation, hany]

/-- The first pattern with the point of focus has it in the place of the marker. -/
private theorem findSome?_recommendation {role : Role} {ps : List Pattern} (h : InRole role (tally "POF" ps)) :
    ps.findSome? Pattern.recommendation? = some (role.recommendation ps) := by
  have heq : ∀ q ∈ ps, q.recommendation? =
      if (q.term role).isFocus then some (role.recommendation [q]) else none :=
    fun q hq => recommendation?_eq fun r hr => isFocus_of_tally (h.only r hr) q hq
  obtain ⟨p, hp, hfocus⟩ := h.exists_focus
  refine findSome?_eq ⟨p, hp, ?_⟩ fun q hq => ?_
  · rw [heq p hp, if_pos hfocus, recommendation_singleton h hp hfocus]
  · by_cases hq' : (q.term role).isFocus = true
    · rw [heq q hq, if_pos hq', recommendation_singleton h hq hq']
      exact .inr rfl
    · rw [heq q hq, if_neg hq']
      exact .inl rfl

/-- What the scope says of the point of focus is what its marker says. -/
structure FollowsMarker (marker : Option Marker) (s : Scope) : Prop where
  /-- The variable of the focus stands in the patterns if the marker was read. -/
  occurs : Occurs .focus s.patterns ↔ marker.isSome
  /-- It stands in the place of the marker only. -/
  place : ∀ m ∈ marker, ∀ p ∈ s.patterns, ∀ role, p.term role = .focus → role = m.role
  /-- It is the object of one pattern if the marker is an object. -/
  once : ∀ m ∈ marker, m.role = .object → s.patterns.countP (·.object.isFocus) = 1
  /-- There is one hint at most. -/
  hint : [s.keyword.isSome, s.iriStart.isSome, decide (0 < s.pathLength)].count true ≤ 1
  /-- There is no hint without a marker. -/
  unhinted : marker = none → s.keyword = none ∧ s.iriStart = none ∧ s.pathLength = 0
  /-- What is recommended is what the marker asks for. -/
  kind : ∀ m ∈ marker, s.recommendation = m.recommendation s.patterns
  /-- Nothing is recommended if there is no marker. -/
  none : s.recommendation = .none ↔ marker = none

/-- The hints are those of the marker, so there is one at most. -/
private theorem Hinted.count_le {focus : Option Marker} {s : Scope} (h : Hinted focus s) :
    [s.keyword.isSome, s.iriStart.isSome, decide (0 < s.pathLength)].count true ≤ 1 := by
  have hcases : (∃ word, hints s = (word, none, 0)) ∨ (∃ iri, hints s = (none, some iri, 0)) ∨
      ∃ length, hints s = (none, none, length) := by
    unfold Hinted at h
    split at h
    · exact .inl ⟨_, h⟩
    · split at h
      · exact .inr (.inr ⟨_, h.1⟩)
      · exact .inr (.inl h)
      · exact .inl h
      · exact .inl ⟨_, h⟩
  simp only [hints, Prod.mk.injEq] at hcases
  obtain ⟨word, hk, hi, hl⟩ | ⟨iri, hk, hi, hl⟩ | ⟨length, hk, hi, hl⟩ := hcases
  · rw [hk, hi, hl]
    cases word <;> simp
  · rw [hk, hi, hl]
    rfl
  · rw [hk, hi]
    cases decide (0 < s.pathLength) <;> decide

/-- A path is sought if and only if the marker has a length for its hint, and then it is a predicate. -/
theorem Hinted.pathLength {m : Marker} {s : Scope} (h : Hinted (some m) s) :
    (∃ length, m.token.kind = .focus (.pathLength length) ∧ s.pathLength = length ∧ 1 ≤ length ∧ m.role = .predicate) ∨
      (∀ length, m.token.kind ≠ .focus (.pathLength length)) ∧ s.pathLength = 0 := by
  unfold Hinted at h
  dsimp only at h
  split at h
  next length hkind =>
    obtain ⟨hhints, hpos, hrole⟩ := h
    exact .inl ⟨length, hkind, congrArg (·.2.2) hhints, hpos, hrole⟩
  next hkind =>
    obtain ⟨iri, hhints⟩ := h
    exact .inr ⟨fun length hlength => Kind.noConfusion (hkind.symm.trans hlength) nofun, congrArg (·.2.2) hhints⟩
  next hkind =>
    obtain ⟨word, hhints⟩ := h
    exact .inr ⟨fun length hlength => Kind.noConfusion (hkind.symm.trans hlength) nofun, congrArg (·.2.2) hhints⟩
  next hlength _ _ => exact .inr ⟨hlength, congrArg (·.2.2) h⟩

/-- If a path is sought, the point of focus is the predicate of a pattern. -/
theorem exists_focus_predicate {text : List Char} {s : Scope} (h : parse text = .ok s) (hlength : s.pathLength ≠ 0) :
    ∃ p ∈ s.patterns, p.predicate.isFocus = true := by
  obtain ⟨hhinted, hled⟩ := parse_hinted h
  cases hmarker : markerOf text with
  | none =>
    rw [hmarker] at hhinted
    exact absurd (congrArg (·.2.2) hhinted) hlength
  | some m =>
    rw [hmarker] at hhinted
    obtain ⟨length, _, _, _, hrole⟩ | ⟨_, hzero⟩ := hhinted.pathLength
    · obtain ⟨p, hp, hpredicate⟩ := hled m hmarker hrole
      exact ⟨p, hp, isFocus_iff.2 hpredicate⟩
    · exact absurd hzero hlength

/-- The marker asks for a path if it has a length for its hint, and for what its place asks for otherwise. -/
private theorem recommendation_of_hinted {m : Marker} {s : Scope} (h : Hinted (some m) s)
    (hrole : InRole m.role (tally "POF" s.patterns)) : s.recommendation = m.recommendation s.patterns := by
  unfold Scope.recommendation Marker.recommendation
  obtain ⟨length, hkind, hlength, hpos, _⟩ | ⟨hkind, hlength⟩ := h.pathLength
  · rw [hkind, if_pos (by omega)]
  · rw [if_neg (not_not.2 hlength), findSome?_recommendation hrole, Option.getD_some]
    split
    next length hpath => exact absurd hpath (hkind length)
    · rfl

/-- Without the point of focus nothing is recommended. -/
private theorem recommendation_eq_none {s : Scope} (hlength : s.pathLength = 0)
    (hfocus : ∀ p ∈ s.patterns, ∀ role, (p.term role).isFocus = false) : s.recommendation = .none := by
  have hnone : s.patterns.findSome? Pattern.recommendation? = none := by
    refine List.findSome?_eq_none_iff.2 fun p hp => ?_
    have hs := hfocus p hp .subject
    have hv := hfocus p hp .predicate
    have ho := hfocus p hp .object
    simp only [Pattern.term] at hs hv ho
    simp [Pattern.recommendation?, hs, hv, ho]
  rw [Scope.recommendation, if_neg (not_not.2 hlength), hnone]
  rfl

/-- Right after a text was read, what the scope says of the point of focus is what the marker of the text says, if the
text does not have the variable of the focus itself. -/
theorem parse_marker {text : List Char} {s : Scope} (h : parse text = .ok s)
    (hwritten : "POF" ∉ writtenVariables text) : FollowsMarker (markerOf text) s := by
  have haccounts := parse_focus h hwritten
  obtain ⟨hhinted, _⟩ := parse_hinted h
  cases hmarker : markerOf text with
  | none =>
    rw [hmarker] at haccounts hhinted
    have hfocus : ∀ p ∈ s.patterns, ∀ role, (p.term role).isFocus = false := haccounts.isFocus_eq_false
    have hnone := hhinted
    simp only [Hinted, hints, Prod.mk.injEq] at hnone
    have hkind := recommendation_eq_none hnone.2.2 hfocus
    have hoccurs : ¬Occurs .focus s.patterns := by
      rintro ⟨p, hp, role, hrole⟩
      exact absurd (isFocus_iff.2 hrole) (Bool.eq_false_iff.1 (hfocus p hp role))
    exact ⟨by simp [hoccurs], by simp, by simp, hhinted.count_le, fun _ => hnone, by simp, by simp [hkind]⟩
  | some m =>
    rw [hmarker] at haccounts hhinted
    -- the marker that was read accounts for every place of the point of focus
    have hrole := haccounts.inRole
    have hkind := recommendation_of_hinted hhinted hrole
    have hne := m.recommendation_ne_none s.patterns
    obtain ⟨p, hp, hfocus⟩ := hrole.exists_focus
    have hoccurs : Occurs .focus s.patterns := ⟨p, hp, m.role, isFocus_iff.1 hfocus⟩
    refine ⟨by simp [hoccurs], ?_, ?_, hhinted.count_le, by simp, ?_, by simp [hkind, hne]⟩
    · rintro _ ⟨⟩ q hq role hfocus
      exact hrole.role_eq hq hfocus
    · rintro _ ⟨⟩ hobject
      have honce := hrole.once hobject
      rwa [hobject, tally_focus] at honce
    · rintro _ ⟨⟩
      exact hkind

/-- What was computed of a result is known of the result itself. -/
theorem exists_ok_of_map {ε α β : Type} {result : Except ε α} {f : α → β} {b : β}
    (h : result.toOption.map f = some b) : ∃ a, result = .ok a ∧ f a = b := by
  cases result with
  | error e => cases h
  | ok a => exact ⟨a, rfl, Option.some.inj h⟩

/-- The point of focus is an item of a collection in brackets, and a word was typed before it. -/
theorem parse_marker_in_collection :
    ∃ s, parse "SELECT * \x7b ?s a [ <p> ( 1 key< ) ] \x7d".toList = .ok s ∧
      FollowsMarker (markerOf "SELECT * \x7b ?s a [ <p> ( 1 key< ) ] \x7d".toList) s ∧
      s.patterns.countP (·.object.isFocus) = 1 ∧ s.recommendation = .object := by
  have hread : ((parse "SELECT * \x7b ?s a [ <p> ( 1 key< ) ] \x7d".toList).toOption.map fun s =>
      s.patterns.any fun p => p.predicate.isType && p.object.isFocus) = some false := by decide +kernel
  have hmarker : markerOf "SELECT * \x7b ?s a [ <p> ( 1 key< ) ] \x7d".toList =
      some ⟨⟨.focus (.keyword "key"), "<", 26, 30⟩, .object⟩ := by decide +kernel
  obtain ⟨s, hparse, hclass⟩ := exists_ok_of_map hread
  have hfollows := parse_marker hparse (by decide +kernel)
  refine ⟨s, hparse, hfollows, hfollows.once _ hmarker rfl, ?_⟩
  rw [hfollows.kind _ hmarker]
  simp [Marker.recommendation, Role.recommendation, hclass]

end PointOfFocus.Query
