import PatternKit.Regex.Expr
import PatternKit.Regex.Property
import PatternKit.Unicode.Blank
import PatternKit.Unicode.CaseOrbit
import PatternKit.Unicode.Digit
import PatternKit.Unicode.Word

/-!
The meaning of a pattern text: the expression its structure stands for, under options that the text may
change as it goes.
-/

set_option autoImplicit false

namespace PatternKit.Regex

/-- Options for reading a pattern. -/
structure Switches where
  ignoreCase : Bool := false
  multiline : Bool := false
  dotAll : Bool := false
  swapGreed : Bool := false
  unicode : Bool := true
  crlf : Bool := false
deriving DecidableEq, Repr

namespace Switches

/-- The options after some of them have been changed. -/
def change (s : Switches) (changes : FlagChanges) : Switches :=
  { ignoreCase := (changes.state .ignoreCase).getD s.ignoreCase
    multiline := (changes.state .multiline).getD s.multiline
    dotAll := (changes.state .dotAll).getD s.dotAll
    swapGreed := (changes.state .swapGreed).getD s.swapGreed
    unicode := (changes.state .unicode).getD s.unicode
    crlf := (changes.state .crlf).getD s.crlf }

theorem change_nil (s : Switches) : s.change [] = s := rfl

end Switches

namespace Expr

/-- A failure with a fault at a place. -/
def fail {α : Type} (fault : Fault) (place : Span) : Except Diagnosis α := .error ⟨fault, place, none⟩

/-- The letters of ASCII that differ from members in case only, added to a set. -/
def foldAscii (s : CharSet) : CharSet :=
  let letters := (List.range 26).flatMap fun n => [('A'.toNat + n, 'a'.toNat + n)]
  let joined := letters.filter fun (u, l) =>
    CharSet.containsCode u s.ranges || CharSet.containsCode l s.ranges
  s.union (CharSet.normalize (joined.flatMap fun (u, l) => [⟨u, u⟩, ⟨l, l⟩]))

/-- Adds what differs in case only, if case is ignored. -/
def fold (sw : Switches) (s : CharSet) : CharSet :=
  if !sw.ignoreCase then s else if sw.unicode then Unicode.foldCase s else foldAscii s

/-- The complement, if the set is negated. Without Unicode a set holds ASCII characters only. -/
def negate (sw : Switches) (span : Span) (negated : Bool) (s : CharSet) : Except Diagnosis CharSet :=
  let t := if negated then s.complement else s
  if sw.unicode || t.isAscii then .ok t else fail .invalidUtf8 span

/-- Refuses a byte that is no character. -/
def checkByte (sw : Switches) (l : Literal) : Except Diagnosis Unit :=
  if !sw.unicode && l.isByte && 0x80 ≤ l.char.toNat then fail .invalidUtf8 l.span else .ok ()

/-- The expression for a literal character. -/
def ofLiteral (sw : Switches) (l : Literal) : Except Diagnosis Expr := do
  checkByte sw l
  let varies :=
    sw.ignoreCase && (if sw.unicode then Unicode.hasCaseVariant l.char else l.char.isAlpha)
  return if varies then ofSet (!sw.unicode) (fold sw (.single l.char)) else .literal [l.char]

theorem ofLiteral_char (span : Span) (c : Char) : ofLiteral {} { span := span, char := c } = .ok (.literal [c]) := rfl

/-- The digits, blanks or word characters of Unicode or ASCII. -/
def perlSet (unicode : Bool) : PerlClass → CharSet
  | .digit => if unicode then Unicode.digitSet else ⟨[⟨0x30, 0x39⟩]⟩
  | .space => if unicode then Unicode.blankSet else ⟨[⟨0x9, 0xd⟩, ⟨0x20, 0x20⟩]⟩
  | .word =>
    if unicode then Unicode.wordSet else ⟨[⟨0x30, 0x39⟩, ⟨0x41, 0x5a⟩, ⟨0x5f, 0x5f⟩, ⟨0x61, 0x7a⟩]⟩

/-- A class of the Perl kind. -/
def ofPerl (sw : Switches) (span : Span) (negated : Bool) (kind : PerlClass) :
    Except Diagnosis CharSet :=
  negate sw span negated (perlSet sw.unicode kind)

/-- The characters of a named class. -/
def asciiSet : AsciiClass → CharSet
  | .alnum => ⟨[⟨0x30, 0x39⟩, ⟨0x41, 0x5a⟩, ⟨0x61, 0x7a⟩]⟩
  | .alpha => ⟨[⟨0x41, 0x5a⟩, ⟨0x61, 0x7a⟩]⟩
  | .ascii => ⟨[⟨0x0, 0x7f⟩]⟩
  | .blank => ⟨[⟨0x9, 0x9⟩, ⟨0x20, 0x20⟩]⟩
  | .cntrl => ⟨[⟨0x0, 0x1f⟩, ⟨0x7f, 0x7f⟩]⟩
  | .digit => ⟨[⟨0x30, 0x39⟩]⟩
  | .graph => ⟨[⟨0x21, 0x7e⟩]⟩
  | .lower => ⟨[⟨0x61, 0x7a⟩]⟩
  | .print => ⟨[⟨0x20, 0x7e⟩]⟩
  | .punct => ⟨[⟨0x21, 0x2f⟩, ⟨0x3a, 0x40⟩, ⟨0x5b, 0x60⟩, ⟨0x7b, 0x7e⟩]⟩
  | .space => ⟨[⟨0x9, 0xd⟩, ⟨0x20, 0x20⟩]⟩
  | .upper => ⟨[⟨0x41, 0x5a⟩]⟩
  | .word => ⟨[⟨0x30, 0x39⟩, ⟨0x41, 0x5a⟩, ⟨0x5f, 0x5f⟩, ⟨0x61, 0x7a⟩]⟩
  | .xdigit => ⟨[⟨0x30, 0x39⟩, ⟨0x41, 0x46⟩, ⟨0x61, 0x66⟩]⟩

/-- The characters with a property. -/
def ofProperty (sw : Switches) (span : Span) (negated : Bool) (query : PropertyQuery) :
    Except Diagnosis CharSet :=
  if !sw.unicode then fail .unicodeNotAllowed span
  else
    match Property.resolve query with
    | .ok s => negate sw span negated (fold sw s)
    | .error fault => fail fault span

/-- The character of a literal in a set. Without Unicode it is an ASCII character. -/
def memberChar (sw : Switches) (l : Literal) : Except Diagnosis Char := do
  checkByte sw l
  if sw.unicode || l.char.toNat < 0x80 then return l.char else fail .unicodeNotAllowed l.span

/-- Applies an operator on sets. -/
def applyOperator (operator : SetOperator) (s t : CharSet) : CharSet :=
  match operator with
  | .intersection => s.inter t
  | .difference => s.difference t
  | .symmetricDifference => s.symmetricDifference t

/-- The set behind brackets, from the intervals of what stands between them. -/
def ofBrackets (sw : Switches) (span : Span) (negated : Bool) (ranges : List CodeRange) :
    Except Diagnosis CharSet :=
  negate sw span negated (fold sw (.normalize ranges))

mutual

/-- The intervals of what stands in a set. -/
def ofClass (sw : Switches) : ClassSet → Except Diagnosis (List CodeRange)
  | .empty _ => .ok []
  | .literal l => do return (CharSet.single (← memberChar sw l)).ranges
  | .range _ lo hi => do
    let lo ← memberChar sw lo
    return (CharSet.interval lo (← memberChar sw hi)).ranges
  | .ascii span negated kind => do return (← negate sw span negated (fold sw (asciiSet kind))).ranges
  | .property span negated query => do return (← ofProperty sw span negated query).ranges
  | .perl span negated kind => do return (← ofPerl sw span negated kind).ranges
  | .bracketed span negated inner => do
    return (← ofBrackets sw span negated (← ofClass sw inner)).ranges
  | .union _ items => ofClasses sw items
  | .operation _ operator lhs rhs => do
    let s := fold sw (.normalize (← ofClass sw lhs))
    let t := fold sw (.normalize (← ofClass sw rhs))
    return (applyOperator operator s t).ranges

/-- The intervals of the members of a set, one after the other. -/
def ofClasses (sw : Switches) : List ClassSet → Except Diagnosis (List CodeRange)
  | [] => .ok []
  | s :: more => do
    let ranges ← ofClass sw s
    return ranges ++ (← ofClasses sw more)

end

/-- The characters that `.` stands for. -/
def dotSet (sw : Switches) : CharSet :=
  if sw.dotAll then .all
  else if sw.crlf then CharSet.complement ⟨[⟨0xa, 0xa⟩, ⟨0xd, 0xd⟩]⟩
  else CharSet.complement ⟨[⟨0xa, 0xa⟩]⟩

/-- The condition behind an assertion. -/
def ofAssertion (sw : Switches) : Assertion → Look
  | .startLine =>
    if !sw.multiline then .start else if sw.crlf then .startLineCrlf else .startLine
  | .endLine => if !sw.multiline then .stop else if sw.crlf then .endLineCrlf else .endLine
  | .startText => .start
  | .endText => .stop
  | .wordBoundary => .wordBoundary !sw.unicode
  | .notWordBoundary => .notWordBoundary !sw.unicode
  | .wordStart => .wordStart !sw.unicode
  | .wordEnd => .wordEnd !sw.unicode
  | .wordStartHalf => .wordStartHalf !sw.unicode
  | .wordEndHalf => .wordEndHalf !sw.unicode

mutual

/-- The expression for a node, and the options after it. -/
def ofAst (sw : Switches) : Ast → Except Diagnosis (Expr × Switches)
  | .empty _ => .ok (.empty, sw)
  | .flags _ changes => .ok (.empty, sw.change changes)
  | .literal l => do return (← ofLiteral sw l, sw)
  | .dot span =>
    if sw.unicode then .ok (ofSet false (dotSet sw), sw) else fail .invalidUtf8 span
  | .assertion _ kind => .ok (.look (ofAssertion sw kind), sw)
  | .property span negated query => do
    return (ofSet (!sw.unicode) (← ofProperty sw span negated query), sw)
  | .perl span negated kind => do return (ofSet (!sw.unicode) (← ofPerl sw span negated kind), sw)
  | .bracketed span negated inner => do
    return (ofSet (!sw.unicode) (← ofBrackets sw span negated (← ofClass sw inner)), sw)
  | .repetition _ min max greedy inner => do
    let (e, sw) ← ofAst sw inner
    return (repeated min max (greedy != sw.swapGreed) e, sw)
  | .group _ (.capturing index name) inner => do
    let (e, _) ← ofAst sw inner
    return (.capture index name e, sw)
  | .group _ (.plain changes) inner => do
    let (e, _) ← ofAst (sw.change changes) inner
    return (e, sw)
  | .alternation _ branches => do
    let (es, sw) ← ofAsts sw branches
    return (ofBranches es, sw)
  | .concat _ items => do
    let (es, sw) ← ofAsts sw items
    return (ofList es, sw)

/-- The expressions for nodes next to each other, and the options after them. -/
def ofAsts (sw : Switches) : List Ast → Except Diagnosis (List Expr × Switches)
  | [] => .ok ([], sw)
  | a :: more => do
    let (e, sw) ← ofAst sw a
    let (es, sw) ← ofAsts sw more
    return (e :: es, sw)

end

end Expr

end PatternKit.Regex
