import PatternKit.Proofs.PickedTexts
import PatternKit.Proofs.QuantifiedOperand

/-!
Text that stands for itself. Pieces of text that are written one after the other are read as the characters of all of
them, and the searcher for these seeks just that text. So what a pattern made of text matches are the occurrences of the
text.
-/

set_option autoImplicit false

namespace PatternKit

namespace Regex

namespace Expr

/-- The expression for the characters of a text. -/
def ofText (s : Text) : Expr := ofList (s.map fun c => .literal [c])

theorem ofText_unconditional (s : Text) : (ofText s).Unconditional := by
  refine .ofList fun e member => ?_
  obtain ⟨c, -, rfl⟩ := List.mem_map.mp member
  trivial

theorem matches_ofText (s w : Text) : (ofText s).Matches w ↔ w = s := by
  rw [ofText, matches_ofList]
  induction s generalizing w with
  | nil => rfl
  | cons c s ih =>
    rw [List.map_cons, MatchesAll]
    simp only [ih, Matches]
    constructor
    · rintro ⟨_, _, rfl, rfl, rfl⟩
      rfl
    · rintro rfl
      exact ⟨[c], s, rfl, rfl, rfl⟩

theorem groupNames_ofText (s : Text) : (ofText s).groupNames = [] := by
  have none_ : (ofText s).captures = [] := by
    rw [ofText, captures_ofList]
    induction s with
    | nil => rfl
    | cons c s ih => exact ih
  rw [groupNames, none_]
  rfl

end Expr

/-- The searcher for the characters of a text seeks that text. -/
theorem searcher_seeks (text s : Text) : (searcher text (.ofText s)).Seeks s := by
  have picks := searcher_picks (Program.accepts_ofExpr (Expr.ofText_unconditional s)) (Expr.groupNames_ofText s) text
  simp only [Expr.matches_ofText] at picks
  constructor
  · intro a u m hit
    obtain ⟨v, _, w, rfl, rfl, rfl, first⟩ := picks.found hit
    refine ⟨v, w, (List.append_assoc _ _ _).symm, fun v' w' same => first v' _ w' ?_ rfl, rfl⟩
    rwa [List.append_assoc, List.append_assoc] at same
  · rintro a u none ⟨v, w, split⟩
    rw [List.append_assoc] at split
    exact picks.absent none split.symm rfl

/-! Text in pattern text. -/

namespace Token

variable {sw : Switches}

/-- The nodes for characters mean these characters. -/
theorem ofAsts_literals (exact_ : sw.ignoreCase = false) (unicode : sw.unicode = true) (v : Text) {s : Stage}
    {es : List Expr} (before : Expr.ofAsts sw s.pending.items.reverse = .ok (es, sw)) :
    Expr.ofAsts sw (feedAll s (literals v)).pending.items.reverse = .ok (es ++ v.map fun c => .literal [c], sw) := by
  induction v generalizing s es with
  | nil =>
    rw [List.map_nil, List.append_nil]
    exact before
  | cons c v ih =>
    have node : Expr.ofAsts sw [(Atom.literal c).node s.pos] = .ok ([.literal [c]], sw) := by
      simp [Expr.ofAsts, Expr.ofAst, Atom.node, Expr.ofLiteral, Expr.checkByte, exact_, unicode, bind, Except.bind,
        pure, Except.pure]
    have next : Expr.ofAsts sw (feed s (.atom (.literal c))).pending.items.reverse = .ok (es ++ [.literal [c]], sw) := by
      show Expr.ofAsts sw ((Atom.literal c).node s.pos :: s.pending.items).reverse = _
      rw [List.reverse_cons]
      exact Expr.ofAsts_append before node
    have rest := ih next
    rw [List.append_assoc] at rest
    exact rest

/-- The text of characters means these characters. -/
theorem ofAst_literals (exact_ : sw.ignoreCase = false) (unicode : sw.unicode = true) (v : Text) :
    Expr.ofAst sw (feedAll (.before {} 0) (literals v)).finish = .ok (.ofText v, sw) := by
  let s := feedAll (.before {} 0) (literals v)
  have nothing : Expr.ofAsts sw (Stage.before {} 0).pending.items.reverse = .ok ([], sw) := rfl
  have means : Expr.ofAsts sw s.pending.items.reverse = .ok (v.map fun c => .literal [c], sw) :=
    ofAsts_literals exact_ unicode v nothing
  have flat : s.pending.branches = [] := literals_flat v _
  show Expr.ofAst sw (Ast.Pending.finish s.pending s.pos) = _
  rw [Ast.Pending.finish, flat]
  cases items : s.pending.items with
  | nil =>
    rw [items] at means
    obtain ⟨none_, -⟩ := Prod.mk.inj (Except.ok.inj means)
    obtain rfl := List.map_eq_nil_iff.mp none_.symm
    rfl
  | cons a more =>
    cases more with
    | nil =>
      rw [items] at means
      obtain ⟨⟨e, sw'⟩, made, rest⟩ := bind_eq_ok means
      obtain ⟨single, rfl⟩ := Prod.mk.inj (Except.ok.inj rest)
      obtain ⟨c, none_, rfl, rfl, nothing⟩ := List.map_eq_cons_iff.mp single.symm
      obtain rfl := List.map_eq_nil_iff.mp nothing
      exact made
    | cons b more =>
      rw [items] at means
      show (Expr.ofAsts sw (a :: b :: more).reverse >>= _) = _
      rw [means]
      rfl

end Token

end Regex

namespace Draft

variable {d : Draft} {parts : List Text} {m : Matcher}

/-- Pieces of text are escaped one by one as they would be together. -/
theorem render_of_texts (texts : d.components = parts.map Component.literal) :
    d.render = Escape.literal parts.flatten := by
  rw [render_eq_renderAll, texts]
  clear texts
  induction parts with
  | nil => rfl
  | cons part parts ih =>
    rw [List.map_cons, Component.renderAll, ih, List.flatten_cons]
    exact (Escape.escape_append _ _ _).symm

/-- What is compiled from pieces of text searches for the characters of all of them. -/
theorem compile_of_texts (texts : d.components = parts.map Component.literal)
    (exact_ : d.flags.has .ignoreCase = false) (compiled : (d.compile Regex.build).result = .ok m) :
    m = ⟨Regex.searcher d.render (.ofText parts.flatten), d.flags⟩ := by
  obtain ⟨-, s, built, rfl⟩ := compile_eq_ok compiled
  obtain ⟨text, whole⟩ := Recipe.literals_spec parts.flatten
  have read := Regex.Token.ofText_textAll whole.fit
  rw [text, ← render_of_texts texts] at read
  have means : Regex.Expr.ofAst d.switches _ = .ok (.ofText parts.flatten, d.switches) :=
    Regex.Token.ofAst_literals exact_ rfl parts.flatten
  rw [Regex.searcher_of_build read means built]

/-- Every question that is not refused is answered by the compiled pattern. -/
theorem ask_of_compiled (compiled : (d.compile Regex.build).result = .ok m) (question : Question)
    (allowed : ∀ h, question = .all h → d.flags.has .global = true) :
    (d.ask Regex.build question).result = .ok (m.answer question) := by
  rw [ask_eq allowed, compiled]
  rfl

/-- Pieces of text that are appended to a draft mean the text they make together, whatever characters it has, as long as
case counts. Without sticky, the compiled pattern matches the texts that hold it, its first match is the first
occurrence, and, if there is anything to find, its matches are the occurrences from left to right and a text is split at
them. With sticky it matches the texts that begin with it, and has as many matches as these begin with it repeated. What
the draft itself is asked is answered by the compiled pattern, all matches only if they are asked for everywhere. -/
theorem text_means_itself (d : Draft) (parts : List Text) (m : Matcher)
    (texts : d.components = parts.map Component.literal) (exact_ : d.flags.has .ignoreCase = false)
    (compiled : (d.compile Regex.build).result = .ok m) (h : Text) :
    (m.isSticky = false →
      (m.isMatch h = true ↔ parts.flatten <:+: h) ∧
        (∀ found, m.first? h = some found ↔ ∃ v w, h = v ++ parts.flatten ++ w ∧
          Text.FirstBetween parts.flatten v w ∧ found = Text.matchBehind v parts.flatten) ∧
        (parts.flatten ≠ [] → Text.Occurrences parts.flatten [] h (m.all h) (m.split h))) ∧
    (m.isSticky = true →
      (m.isMatch h = true ↔ parts.flatten <+: h) ∧
        (parts.flatten ≠ [] → IsGreatest {k | (List.replicate k parts.flatten).flatten <+: h} (m.all h).length)) ∧
    (d.ask Regex.build (.isMatch h)).result = .ok (.isMatch (m.isMatch h)) ∧
    (d.ask Regex.build (.first h)).result = .ok (.first h (m.first? h)) ∧
    (d.ask Regex.build (.split h)).result = .ok (.split (m.split h)) ∧
    (m.isGlobal = true → (d.ask Regex.build (.all h)).result = .ok (.all h (m.all h))) := by
  have made := compile_of_texts texts exact_ compiled
  have seeks : m.searcher.Seeks parts.flatten := made ▸ Regex.searcher_seeks d.render parts.flatten
  have flags : m.flags = d.flags := by rw [made]
  refine ⟨fun free => ⟨?_, fun found => ?_, fun some => ?_⟩, fun sticky => ⟨?_, fun some => ?_⟩, ?_, ?_, ?_, ?_⟩
  · rw [m.isMatch_free free]
    exact seeks.find_isSome [] h
  · rw [m.first?_free free]
    exact seeks.find_eq_some_iff [] h found
  · rw [m.all_free free]
    exact seeks.allMatches_occurrences some h
  · exact Matcher.isMatch_sticky seeks sticky h
  · rw [m.all_sticky sticky]
    exact seeks.length_chain some h
  · exact ask_of_compiled compiled (.isMatch h) fun _ other => by cases other
  · exact ask_of_compiled compiled (.first h) fun _ other => by cases other
  · exact ask_of_compiled compiled (.split h) fun _ other => by cases other
  · intro everywhere
    refine ask_of_compiled compiled (.all h) fun _ _ => ?_
    rwa [Matcher.isGlobal, flags] at everywhere

/-- The characters of two pieces of text full of signs. -/
def signs : Text := ['a', '.', '(', '[', 'ß']

/-- A draft of the two pieces, under some options. -/
def signPieces (flags : Flags) : Draft :=
  { components := [['a', '.', '('], ['[', 'ß']].map Component.literal
    flags := flags
    limits := { policy := .disabled } }

theorem signPieces_means_itself :
    (∃ m, ((signPieces (.of .global)).compile Regex.build).result = .ok m ∧
      m.isMatch ('x' :: signs ++ ['.'] ++ signs) = true ∧
      Text.Occurrences signs [] ('x' :: signs ++ ['.'] ++ signs) (m.all ('x' :: signs ++ ['.'] ++ signs))
        (m.split ('x' :: signs ++ ['.'] ++ signs)) ∧
      ((signPieces (.of .global)).ask Regex.build (.all ('x' :: signs ++ ['.'] ++ signs))).result =
        .ok (.all ('x' :: signs ++ ['.'] ++ signs) (m.all ('x' :: signs ++ ['.'] ++ signs)))) ∧
    ∃ m, ((signPieces (.of .sticky)).compile Regex.build).result = .ok m ∧
      m.isMatch (signs ++ signs ++ ['.']) = true ∧
      IsGreatest {k | (List.replicate k signs).flatten <+: signs ++ signs ++ ['.']}
        (m.all (signs ++ signs ++ ['.'])).length := by
  have compiles (flags : Flags) (accepted : (((signPieces flags).compile Regex.build).result).isOk = true) :
      ∃ m, ((signPieces flags).compile Regex.build).result = .ok m ∧ m.flags = flags := by
    cases compiled : ((signPieces flags).compile Regex.build).result with
    | error e =>
      rw [compiled] at accepted
      cases accepted
    | ok m =>
      obtain ⟨-, s, -, rfl⟩ := compile_eq_ok compiled
      exact ⟨_, rfl, rfl⟩
  have some : signs ≠ [] := List.cons_ne_nil _ _
  constructor
  · obtain ⟨m, compiled, flags⟩ := compiles (.of .global) (by decide +kernel)
    have free : m.isSticky = false := by rw [Matcher.isSticky, flags]; decide
    have everywhere : m.isGlobal = true := by rw [Matcher.isGlobal, flags]; decide
    have holds := text_means_itself (signPieces (.of .global)) [['a', '.', '('], ['[', 'ß']] m rfl (by decide) compiled
      ('x' :: signs ++ ['.'] ++ signs)
    obtain ⟨found, -, occurrences⟩ := holds.1 free
    exact ⟨m, compiled, found.mpr ⟨['x'], ['.'] ++ signs, rfl⟩, occurrences some, holds.2.2.2.2.2 everywhere⟩
  · obtain ⟨m, compiled, flags⟩ := compiles (.of .sticky) (by decide +kernel)
    have sticky : m.isSticky = true := by rw [Matcher.isSticky, flags]; decide
    have holds := text_means_itself (signPieces (.of .sticky)) [['a', '.', '('], ['[', 'ß']] m rfl (by decide) compiled
      (signs ++ signs ++ ['.'])
    obtain ⟨found, repeated⟩ := holds.2.1 sticky
    exact ⟨m, compiled, found.mpr ⟨signs ++ ['.'], rfl⟩, repeated some⟩

end Draft

end PatternKit
