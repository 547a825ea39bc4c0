import PatternKit.Span
import PatternKit.Text

/-!
The structure of pattern text: what it says, and which part of the text says it.
-/

set_option autoImplicit false

namespace PatternKit.Regex

/-- A literal character; `isByte` when it is written as a byte with two hexadecimal digits. -/
structure Literal where
  span : Span
  char : Char
  isByte : Bool := false
deriving DecidableEq, Repr

/-- A condition on the place between two characters. -/
inductive Assertion where
  | startLine
  | endLine
  | startText
  | endText
  | wordBoundary
  | notWordBoundary
  | wordStart
  | wordEnd
  | wordStartHalf
  | wordEndHalf
deriving DecidableEq, Repr

/-- The classes behind `\d`, `\s` and `\w`. -/
inductive PerlClass where
  | digit
  | space
  | word
deriving DecidableEq, Repr

/-- The classes written `[:name:]`. -/
inductive AsciiClass where
  | alnum
  | alpha
  | ascii
  | blank
  | cntrl
  | digit
  | graph
  | lower
  | print
  | punct
  | space
  | upper
  | word
  | xdigit
deriving DecidableEq, Repr

/-- A property of characters, as it is asked for. -/
inductive PropertyQuery where
  | name (name : Text)
  | valued (name value : Text)
deriving DecidableEq, Repr

/-- An operator on sets of characters. -/
inductive SetOperator where
  | intersection
  | difference
  | symmetricDifference
deriving DecidableEq, Repr

/-- What stands in a bracketed set. -/
inductive ClassSet where
  | empty (span : Span)
  | literal (literal : Literal)
  | range (span : Span) (lo hi : Literal)
  | ascii (span : Span) (negated : Bool) (kind : AsciiClass)
  | property (span : Span) (negated : Bool) (query : PropertyQuery)
  | perl (span : Span) (negated : Bool) (kind : PerlClass)
  | bracketed (span : Span) (negated : Bool) (inner : ClassSet)
  | union (span : Span) (items : List ClassSet)
  | operation (span : Span) (operator : SetOperator) (lhs rhs : ClassSet)

/-- The part of the text that says a set. -/
def ClassSet.span : ClassSet → Span
  | .literal l => l.span
  | .empty s | .range s .. | .ascii s .. | .property s .. | .perl s .. | .bracketed s .. | .union s ..
  | .operation s .. => s

/-- An option that is set inside pattern text. -/
inductive InlineFlag where
  | ignoreCase
  | multiline
  | dotAll
  | swapGreed
  | unicode
  | crlf
  | extended
deriving DecidableEq, Repr

/-- Options that are switched on or off together. -/
abbrev FlagChanges := List (InlineFlag × Bool)

/-- What a list of changes says about an option. -/
def FlagChanges.state (changes : FlagChanges) (flag : InlineFlag) : Option Bool := changes.lookup flag

/-- The kinds of groups. -/
inductive GroupKind where
  | capturing (index : Nat) (name : Option Text)
  | plain (changes : FlagChanges)
deriving DecidableEq, Repr

/-- The structure of a pattern text. -/
inductive Ast where
  | empty (span : Span)
  | flags (span : Span) (changes : FlagChanges)
  | literal (literal : Literal)
  | dot (span : Span)
  | assertion (span : Span) (kind : Assertion)
  | property (span : Span) (negated : Bool) (query : PropertyQuery)
  | perl (span : Span) (negated : Bool) (kind : PerlClass)
  | bracketed (span : Span) (negated : Bool) (inner : ClassSet)
  | repetition (span : Span) (min : Nat) (max : Option Nat) (greedy : Bool) (inner : Ast)
  | group (span : Span) (kind : GroupKind) (inner : Ast)
  | alternation (span : Span) (branches : List Ast)
  | concat (span : Span) (items : List Ast)

/-- The part of the text that says a node. -/
def Ast.span : Ast → Span
  | .literal l => l.span
  | .empty s | .flags s _ | .dot s | .assertion s _ | .property s .. | .perl s .. | .bracketed s ..
  | .repetition s .. | .group s .. | .alternation s _ | .concat s _ => s

end PatternKit.Regex
