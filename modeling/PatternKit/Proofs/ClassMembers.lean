import PatternKit.Proofs.SetReading
import PatternKit.Regex.Expr.OfAst

/-!
The members of classes, as the syntax of classes is meant. A literal stands for its character and a range for what is
between its ends; a class inside brackets is one member of the class around it, an operator takes what is on its two
sides as wholes, and a caret or a capital letter stands for all other characters. Nothing is said here about how a set
is kept or computed. Case counts, and digits, blanks and word characters are those of Unicode.
-/

set_option autoImplicit false

namespace PatternKit.Regex

/-- Whether an operator on sets keeps a character that its two sides have or do not have. -/
def SetOperator.keeps (operator : SetOperator) (left right : Bool) : Bool :=
  match operator with
  | .intersection => left && right
  | .difference => left && !right
  | .symmetricDifference => left != right

namespace ClassSet

mutual

/-- Whether a character is a member of a class. -/
def has (c : Char) : ClassSet → Bool
  | .empty _ => false
  | .literal l => l.char == c
  | .range _ lo hi => lo.char ≤ c && c ≤ hi.char
  | .ascii _ negated kind => (Expr.asciiSet kind).contains c != negated
  | .property _ negated query =>
    match Property.resolve query with
    | .ok s => s.contains c != negated
    | .error _ => false
  | .perl _ negated kind => (Expr.perlSet true kind).contains c != negated
  | .bracketed _ negated inner => has c inner != negated
  | .union _ items => hasAny c items
  | .operation _ operator lhs rhs => operator.keeps (has c lhs) (has c rhs)

/-- Whether a character is a member of one of some classes. -/
def hasAny (c : Char) : List ClassSet → Bool
  | [] => false
  | s :: more => has c s || hasAny c more

end

theorem has_bracketed (c : Char) (span : Span) (negated : Bool) (inner : ClassSet) :
    has c (.bracketed span negated inner) = (has c inner != negated) := rfl

end ClassSet

namespace Bracket

/-- Members that have been read one after the other have what any of them has. -/
theorem has_unionOf (c : Char) (start : Nat) (acc : List ClassSet) :
    (unionOf start acc).has c = ClassSet.hasAny c acc.reverse := by
  rcases acc with - | ⟨x, - | ⟨y, acc⟩⟩
  · rfl
  · exact (Bool.or_false _).symm
  · obtain ⟨span, several⟩ := unionOf_several start x y acc
    rw [several]
    rfl

end Bracket

namespace SetItem

/-- Whether a member of a set, as it is written, stands for a character. -/
def has (c : Char) : SetItem → Bool
  | .char d | .bare d => d == c
  | .range lo hi => lo ≤ c && c ≤ hi
  | .perl kind negated => (Expr.perlSet true kind).contains c != negated

theorem has_node (c : Char) (p : Nat) (i : SetItem) : (i.node p).has c = i.has c := by
  cases i <;> rfl

theorem hasAny_nodes (c : Char) (p : Nat) (items : List SetItem) :
    ClassSet.hasAny c (nodes p items) = items.any (has c) := by
  induction items generalizing p with
  | nil => rfl
  | cons i items ih => rw [nodes, ClassSet.hasAny, has_node, ih, List.any_cons]

theorem any_has_chars (c : Char) (cs : Text) : (cs.map SetItem.char).any (has c) = true ↔ c ∈ cs := by
  simp [has]

end SetItem

namespace Bracket

/-- Whether a text is read, wherever it stands and whatever follows it, as one bracketed class that ends with the text,
and the class has certain members and no other. -/
def Denotes (text : Text) (negated : Bool) (members : Char → Prop) : Prop :=
  ∀ (p : Nat) (t : Text), let span : Span := ⟨p, p + text.length⟩
    ∃ inner, Bracket.read false ⟨p, text ++ t⟩ = .ok (.bracketed span negated inner, ⟨span.stop, t⟩) ∧
      ∀ c, (ClassSet.bracketed span negated inner).has c = true ↔ members c

theorem Denotes.congr {text : Text} {negated : Bool} {members members' : Char → Prop}
    (denotes : Denotes text negated members) (same : ∀ c, members c ↔ members' c) : Denotes text negated members' := by
  obtain rfl : members = members' := funext fun c => propext (same c)
  exact denotes

/-- A set that is written member by member has what any of them stands for, and a negated one what none of them
stands for. -/
theorem denotes_setText {items : List SetItem} (some : items ≠ []) (fit : SetItem.FitAll items) (negated : Bool) :
    Denotes (SetItem.setText negated items) negated fun c => (items.any (SetItem.has c) != negated) = true := by
  intro p t
  refine ⟨_, read_setText some fit negated p t, fun c => ?_⟩
  rw [ClassSet.has_bracketed, has_unionOf, List.reverse_reverse, SetItem.hasAny_nodes]

end Bracket

end PatternKit.Regex
