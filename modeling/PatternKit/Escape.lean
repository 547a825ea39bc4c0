import PatternKit.Text

/-!
Escaping: a backslash before every character that has a meaning of its own in pattern text. Outside
bracketed sets and inside them different characters do.
-/

set_option autoImplicit false

namespace PatternKit.Escape

/-- Characters with a meaning outside bracketed sets. -/
def literalMetas : List Char :=
  ['.', '*', '+', '?', '^', '$', '{', '}', '(', ')', '|', '[', ']', '\\']

/-- Characters with a meaning inside bracketed sets; `[`, `&` and `~` start nested sets and operators
on sets. -/
def setMetas : List Char := [']', '\\', '^', '-', '[', '&', '~']

/-- Writes a backslash before every character of `metas`. -/
def escape (metas : List Char) : Text → Text
  | [] => []
  | c :: cs => if c ∈ metas then '\\' :: c :: escape metas cs else c :: escape metas cs

/-- Text that stands for itself outside bracketed sets. -/
def literal (t : Text) : Text := escape literalMetas t

/-- Text whose characters stand for themselves inside a bracketed set. -/
def setMember (t : Text) : Text := escape setMetas t

theorem escape_append (metas : List Char) (s t : Text) :
    escape metas (s ++ t) = escape metas s ++ escape metas t := by
  induction s with
  | nil => rfl
  | cons c cs ih => by_cases h : c ∈ metas <;> simp [escape, h, ih]

theorem literal_cons (c : Char) (t : Text) : literal (c :: t) = literal [c] ++ literal t :=
  escape_append _ [c] t

theorem setMember_cons (c : Char) (t : Text) : setMember (c :: t) = setMember [c] ++ setMember t :=
  escape_append _ [c] t

end PatternKit.Escape
