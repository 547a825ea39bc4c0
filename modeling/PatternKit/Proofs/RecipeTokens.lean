import PatternKit.Draft
import PatternKit.Proofs.Token

/-!
Recipes as tokens. What a recipe makes has the text of tokens that fit one behind the other, if its parts are
in order.
-/

set_option autoImplicit false

namespace PatternKit

open Regex (Atom SetItem Token)

/-- The atom of a shorthand. -/
def Shorthand.atom : Shorthand → Atom
  | .digit => .perl .digit false
  | .nonDigit => .perl .digit true
  | .word => .perl .word false
  | .nonWord => .perl .word true
  | .whitespace => .perl .space false
  | .nonWhitespace => .perl .space true
  | .any => .dot

theorem Shorthand.text_atom (s : Shorthand) : s.atom.text = s.token := by
  cases s <;> rfl

namespace CommonFormat

private def alnum : List SetItem := [.range 'a' 'z', .range 'A' 'Z', .range '0' '9']

/-- A percent sign and two hexadecimal digits. -/
private def percentCode : List Token :=
  [.atom (.literal '%'), .atom (.set false [.perl .digit false, .range 'A' 'F', .range 'a' 'f']),
    .suffix (.exactly 2)]

/-- Any number of characters of an address, or of percent codes. `more` are characters allowed besides. -/
private def addressPart (more : Text) : List Token :=
  [.group false
    (.atom (.set false ([.perl .word false, .char '.', .char '_', .bare '~', .char '!', .char '$', .bare '&'] ++
        ("'()*+,;=:@".toList ++ more).map .char)) ::
      .bar :: percentCode),
    .suffix .zeroOrMore]

private def literals (t : Text) : List Token := t.map fun c => .atom (.literal c)

/-- A number from 0 to 255, with zeros before it perhaps. -/
private def byte : Token :=
  .group false
    (literals ['2', '5'] ++ [.atom (.set false [.range '0' '5']), .bar] ++
      literals ['2'] ++ [.atom (.set false [.range '0' '4']), .atom (.set false [.range '0' '9']), .bar,
        .atom (.set false [.char '0', .char '1']), .suffix .optional,
        .atom (.set false [.range '0' '9']), .atom (.set false [.range '0' '9']), .suffix .optional])

private def digits (n : Nat) : List Token := [.atom (.perl .digit false), .suffix (.exactly n)]

/-- An address up to its path. -/
private def urlPath : List Token :=
  literals ['h', 't', 't', 'p', 's'] ++ [.suffix .optional] ++ literals [':', '/', '/'] ++
    [.group false [.atom (.set false [.bare '-', .perl .word false, .char '.'])], .suffix .oneOrMore,
      .group false [.atom (.set false [.char ':', .perl .digit false]), .suffix .oneOrMore],
      .suffix .optional,
      .group false (.atom (.literal '/') :: addressPart []), .suffix .zeroOrMore]

/-- What may follow the path of an address behind a mark. -/
private def urlPart (mark : Char) : List Token :=
  [.group false (.atom (.literal mark) :: addressPart ['/', '?']), .suffix .optional]

/-- The tokens of a common format. -/
def tokens : CommonFormat → List Token
  | .email =>
    [.atom (.set false (alnum ++ [.char '.', .char '_', .char '%', .char '+', .bare '-'])),
      .suffix .oneOrMore, .atom (.literal '@'),
      .atom (.set false (alnum ++ [.char '.', .bare '-'])), .suffix .oneOrMore, .atom (.literal '.'),
      .atom (.set false [.range 'a' 'z', .range 'A' 'Z']), .suffix (.atLeast 2)]
  | .url => urlPath ++ urlPart '?' ++ urlPart '#'
  | .phone =>
    [.atom (.literal '('), .suffix .optional] ++ digits 3 ++
      [.atom (.literal ')'), .suffix .optional, separator, .suffix .optional] ++ digits 3 ++
      [separator, .suffix .optional] ++ digits 4
  | .ipAddress =>
    [.group false [byte, .atom (.literal '.')], .suffix (.exactly 3), byte]
  | .creditCard =>
    [.atom .wordBoundary,
      .group false (digits 4 ++ [.atom (.set false [.bare '-', .char ' ']), .suffix .optional]),
      .suffix (.exactly 3)] ++ digits 4 ++ [.atom .wordBoundary]
  | .hexColor =>
    [.atom (.literal '#'),
      .group false [.atom (.set false [.range '0' '9', .range 'a' 'f', .range 'A' 'F']), .suffix (.exactly 3)],
      .suffix (.between 1 2 (by decide)), .atom .wordBoundary]
where
  separator : Token := .atom (.set false [.bare '-', .char '.', .perl .space false])

theorem textAll_tokens (f : CommonFormat) : Token.textAll f.tokens = f.fragment := by
  cases f with
  | url =>
    show Token.textAll (urlPath ++ urlPart '?' ++ urlPart '#') = String.toList (_ ++ _ ++ _)
    rw [String.toList_append, String.toList_append, Token.textAll_append, Token.textAll_append]
    refine congr (congrArg _ (congr (congrArg _ ?_) ?_)) ?_ <;> exact String.toList_ofList.symm
  | _ => exact String.toList_ofList.symm

theorem fits_tokens (f : CommonFormat) :
    Token.fitAll false f.tokens = true ∧ Token.endsReady false f.tokens = true := by
  cases f <;> decide

end CommonFormat

/-- Whether the bounds asked for are numbers of 32 bits. -/
def Quantifier.Request.Fits : Quantifier.Request → Prop
  | .optional | .oneOrMore | .zeroOrMore => True
  | .exactly n | .atLeast n => n < 0x100000000
  | .between min max => min < 0x100000000 ∧ max < 0x100000000

theorem Quantifier.Request.Fits.build {request : Quantifier.Request} (fits : request.Fits) {q : Quantifier}
    (h : request.build = .ok q) : q.Fits := by
  cases request with
  | between min max =>
    by_cases ordered : min ≤ max
    · obtain rfl : Quantifier.between min max ordered = q := by
        simpa [Request.build, between?, ordered] using h
      exact ⟨fits.1, by rintro _ ⟨⟩; exact fits.2⟩
    · simp [Request.build, between?, ordered] at h
  | exactly n =>
    obtain rfl := Except.ok.inj h
    exact ⟨fits, by rintro _ ⟨⟩; exact fits⟩
  | atLeast n =>
    obtain rfl := Except.ok.inj h
    exact ⟨fits, by rintro _ ⟨⟩⟩
  | _ =>
    obtain rfl := Except.ok.inj h
    exact ⟨by decide, by decide⟩

namespace Recipe

/-- The tokens of the ready-made fragments. -/
private def ownTokens : List (List Token) :=
  [[.atom (.set false [.range 'a' 'z', .range 'A' 'Z'])],
    [.atom (.set false [.range 'a' 'z', .range 'A' 'Z']), .suffix .oneOrMore],
    [.atom .startLine], [.atom .endLine], [.atom .wordBoundary]]

mutual

/-- The tokens of what a recipe makes. -/
def tokens : Recipe → List Token
  | .literal value => value.map fun c => .atom (.literal c)
  | .raw fragment => (ownTokens.find? fun ts => Token.textAll ts == fragment).getD []
  | .shorthand class_ => [.atom class_.atom]
  | .set chars negated => [.atom (.set negated (chars.map .char))]
  | .range lo hi => [.atom (.set false [.range lo hi])]
  | .common format => format.tokens
  | .group children capturing => [.group capturing (tokensAll children)]
  | .alternatives branches => tokensBranches branches
  | .quantified inner request =>
    match request.build with
    | .ok q => tokens inner ++ [.suffix q]
    | .error _ => []

def tokensAll : List Recipe → List Token
  | [] => []
  | r :: rs => tokens r ++ tokensAll rs

def tokensBranches : List (List Recipe) → List Token
  | [] => []
  | rs :: more => .group false (tokensAll rs) :: tokensFurther more

def tokensFurther : List (List Recipe) → List Token
  | [] => []
  | rs :: more => .bar :: .group false (tokensAll rs) :: tokensFurther more

end

mutual

/-- Whether a recipe uses no text of its own, and its parts are in order: sets have members, ranges and bounds
are ordered, and nothing empty is repeated. -/
def Clean : Recipe → Prop
  | .literal _ | .shorthand _ | .common _ => True
  | .raw fragment => Recipe.raw fragment ∈ own
  | .set chars _ => chars ≠ []
  | .range lo hi => lo ≤ hi
  | .group children _ => CleanAll children
  | .alternatives branches => CleanBranches branches
  | .quantified inner request =>
    Clean inner ∧ request.Fits ∧ ∀ c, inner.build = .ok c → c.render ≠ []

def CleanAll : List Recipe → Prop
  | [] => True
  | r :: rs => Clean r ∧ CleanAll rs

def CleanBranches : List (List Recipe) → Prop
  | [] => True
  | rs :: more => CleanAll rs ∧ CleanBranches more

end

theorem literals_spec (value : Text) :
    Token.textAll (value.map fun c => .atom (.literal c)) = Escape.literal value ∧
      Token.Whole (value.map fun c => .atom (.literal c)) := by
  induction value with
  | nil => exact ⟨rfl, .nil⟩
  | cons c value ih =>
    refine ⟨?_, (Token.Whole.atom (a := .literal c) rfl).append ih.2⟩
    rw [List.map_cons, Token.textAll, ih.1, Escape.literal_cons]
    rfl

theorem set_spec {chars : Text} (some : chars ≠ []) (negated : Bool) :
    (SetItem.setText negated (chars.map .char)) = (Component.set chars negated).render ∧
      Atom.fits (.set negated (chars.map .char)) = true := by
  have text : SetItem.textAll (chars.map .char) = Escape.setMember chars := by
    clear some
    induction chars with
    | nil => rfl
    | cons c chars ih =>
      rw [List.map_cons, SetItem.textAll, ih, Escape.setMember_cons]
      rfl
  refine ⟨?_, ?_⟩
  · rw [SetItem.setText, text]
    rfl
  · have fit : SetItem.FitAll (chars.map .char) := SetItem.fitAll_chars chars
    simp [Atom.fits, some, fit]

private theorem own_spec {fragment : Text} (is : Recipe.raw fragment ∈ own) :
    Token.textAll (tokens (.raw fragment)) = fragment ∧ Token.Whole (tokens (.raw fragment)) := by
  rcases mem_own.mp is with rfl | rfl | rfl | rfl | rfl
  · exact ⟨by decide, by decide, by decide⟩
  · exact ⟨by decide, by decide, by decide⟩
  · exact ⟨by decide, by decide, by decide⟩
  · exact ⟨by decide, by decide, by decide⟩
  · exact ⟨by decide, by decide, by decide⟩

mutual

/-- The tokens of a clean recipe have the text of what it makes, and can stand where a sequence begins. -/
theorem tokens_spec (r : Recipe) {c : Component} (clean : r.Clean) (h : r.build = .ok c) :
    Token.textAll r.tokens = c.render ∧ Token.Whole r.tokens := by
  cases r with
  | literal value =>
    obtain rfl := Except.ok.inj h
    exact literals_spec value
  | raw fragment =>
    obtain rfl := Except.ok.inj h
    exact own_spec clean
  | shorthand class_ =>
    obtain rfl := Except.ok.inj h
    refine ⟨?_, .atom (by cases class_ <;> rfl)⟩
    simp [tokens, Token.textAll, Token.text, class_.text_atom, Component.render]
  | set chars negated =>
    obtain rfl := Except.ok.inj h
    obtain ⟨text, fits⟩ := set_spec clean negated
    exact ⟨by simp [tokens, Token.textAll, Token.text, Atom.text, text], .atom fits⟩
  | range lo hi =>
    obtain rfl := Except.ok.inj h
    have fit : SetItem.FitAll [.range lo hi] := ⟨clean, trivial⟩
    refine ⟨?_, .atom (by simp [Atom.fits, fit])⟩
    simp [tokens, Token.textAll, Token.text, Atom.text, SetItem.setText, SetItem.textAll, SetItem.text,
      Component.range, Component.render]
  | common format =>
    obtain rfl := Except.ok.inj h
    exact ⟨format.textAll_tokens, format.fits_tokens.1, fun _ => format.fits_tokens.2⟩
  | group children capturing =>
    obtain ⟨cs, made, rfl⟩ := build_group_eq_ok h
    obtain ⟨text, whole⟩ := tokensAll_spec children clean made
    refine ⟨?_, .group capturing whole⟩
    simp [tokens, Token.textAll, Token.text, Token.opening, text, Component.render]
  | alternatives branches =>
    obtain ⟨css, made, rfl⟩ := build_alternatives_eq_ok h
    exact tokensBranches_spec branches clean made
  | quantified inner request =>
    obtain ⟨cleanInner, fits, some⟩ := clean
    obtain ⟨c', q, made, asked, rfl⟩ := build_quantified_eq_ok h
    obtain ⟨text, whole⟩ := tokens_spec inner cleanInner made
    have nonempty : inner.tokens ≠ [] := fun none => some c' made (by rw [← text, none]; rfl)
    rw [tokens, asked]
    refine ⟨?_, whole.suffix nonempty (fits.build asked)⟩
    simp [Token.textAll, Token.text, text, Component.render]

theorem tokensAll_spec (rs : List Recipe) {cs : List Component} (clean : CleanAll rs)
    (h : buildAll rs = .ok cs) :
    Token.textAll (tokensAll rs) = Component.renderAll cs ∧ Token.Whole (tokensAll rs) := by
  cases rs with
  | nil =>
    obtain rfl := Except.ok.inj h
    exact ⟨rfl, .nil⟩
  | cons r rs =>
    obtain ⟨c, more, first, rest, rfl⟩ := buildAll_cons_eq_ok h
    obtain ⟨text, whole⟩ := tokens_spec r clean.1 first
    obtain ⟨texts, wholes⟩ := tokensAll_spec rs clean.2 rest
    refine ⟨?_, whole.append wholes⟩
    rw [tokensAll, Token.textAll_append, text, texts, Component.renderAll]

/-- The tokens of branches, each of which is a group. -/
private theorem tokensBranches_spec (branches : List (List Recipe)) {css : List (List Component)}
    (clean : CleanBranches branches) (h : buildBranches branches = .ok css) :
    Token.textAll (tokensBranches branches) = (Component.alternatives css).render ∧
      Token.Whole (tokensBranches branches) := by
  cases branches with
  | nil =>
    obtain rfl := Except.ok.inj h
    exact ⟨rfl, .nil⟩
  | cons rs branches =>
    obtain ⟨cs, more, first, rest, rfl⟩ := buildBranches_cons_eq_ok h
    obtain ⟨text, whole⟩ := tokensAll_spec rs clean.1 first
    obtain ⟨texts, wholes⟩ := tokensFurther_spec branches clean.2 rest
    refine ⟨?_, (Token.Whole.group false whole).append wholes⟩
    simp [tokensBranches, Token.textAll, Token.text, Token.opening, text, texts, Component.alternatives,
      Component.render, Component.renderBranches]

private theorem tokensFurther_spec (branches : List (List Recipe)) {css : List (List Component)}
    (clean : CleanBranches branches) (h : buildBranches branches = .ok css) :
    Token.textAll (tokensFurther branches) =
        Component.renderFurther (css.map fun branch => .group branch false) ∧
      Token.Whole (tokensFurther branches) := by
  cases branches with
  | nil =>
    obtain rfl := Except.ok.inj h
    exact ⟨rfl, .nil⟩
  | cons rs branches =>
    obtain ⟨cs, more, first, rest, rfl⟩ := buildBranches_cons_eq_ok h
    obtain ⟨text, whole⟩ := tokensAll_spec rs clean.1 first
    obtain ⟨texts, wholes⟩ := tokensFurther_spec branches clean.2 rest
    refine ⟨?_, Token.Whole.nil.bar ((Token.Whole.group false whole).append wholes) (List.cons_ne_nil _ _)⟩
    simp [tokensFurther, Token.textAll, Token.text, Token.opening, text, texts, Component.render,
      Component.renderFurther]

end

end Recipe

end PatternKit
