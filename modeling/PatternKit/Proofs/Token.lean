import PatternKit.Proofs.SetReading

/-!
Tokens of pattern text. Tokens that fit one behind the other are a text in which none of them runs into its
neighbours, apart from a question mark behind a suffix.
-/

set_option autoImplicit false

namespace PatternKit.Regex

/-- A token that is an item of a sequence by itself. -/
inductive Atom where
  /-- A character, with a backslash where the escaping of text puts one. -/
  | literal (c : Char)
  | dot
  | perl (kind : PerlClass) (negated : Bool)
  | startLine
  | endLine
  | wordBoundary
  | set (negated : Bool) (items : List SetItem)
deriving DecidableEq, Repr

namespace Atom

/-- An atom in pattern text. -/
def text : Atom → Text
  | .literal c => Escape.literal [c]
  | .dot => ['.']
  | .perl kind negated => kind.token negated
  | .startLine => ['^']
  | .endLine => ['$']
  | .wordBoundary => ['\\', 'b']
  | .set negated items => SetItem.setText negated items

/-- The node for an atom at an offset. -/
def node (p : Nat) (a : Atom) : Ast :=
  let span : Span := ⟨p, p + a.text.length⟩
  match a with
  | .literal c => .literal ⟨span, c, false⟩
  | .dot => .dot span
  | .perl kind negated => .perl span negated kind
  | .startLine => .assertion span .startLine
  | .endLine => .assertion span .endLine
  | .wordBoundary => .assertion span .wordBoundary
  | .set negated items => SetItem.setNode p negated items

/-- Whether an atom is read as it is meant: a set has members, and they can stand one after the other. -/
def fits : Atom → Bool
  | .set _ items => decide (items ≠ [] ∧ SetItem.FitAll items)
  | _ => true

theorem text_ne_nil (a : Atom) : a.text ≠ [] := by
  cases a with
  | literal c => simp only [text, Escape.literal, Escape.escape]; split <;> simp
  | set negated items => cases negated <;> simp [text, SetItem.setText]
  | _ => simp [text, PerlClass.token]

@[simp] theorem span_node (p : Nat) (a : Atom) : (a.node p).span = ⟨p, p + a.text.length⟩ := by
  cases a <;> rfl

end Atom

/-- A token of pattern text. -/
inductive Token where
  | atom (a : Atom)
  | group (capturing : Bool) (body : List Token)
  /-- The mark between branches. -/
  | bar
  | suffix (q : Quantifier)

namespace Token

/-- The beginning of a group. -/
def opening (capturing : Bool) : Text := if capturing then ['('] else ['(', '?', ':']

mutual

def text : Token → Text
  | .atom a => a.text
  | .group capturing body => opening capturing ++ textAll body ++ [')']
  | .bar => ['|']
  | .suffix q => q.suffix

def textAll : List Token → Text
  | [] => []
  | t :: ts => text t ++ textAll ts

end

/-- Whether a repetition can stand behind a token. -/
def isOperand : Token → Bool
  | .bar => false
  | _ => true

/-- Whether a repetition can stand behind tokens. `ready` tells whether one can stand before them. -/
def endsReady (ready : Bool) : List Token → Bool
  | [] => ready
  | t :: ts => endsReady t.isOperand ts

mutual

/-- Whether a token fits behind others. `ready` tells whether a repetition can stand behind those. -/
def fits (ready : Bool) : Token → Bool
  | .atom a => a.fits
  | .group _ body => fitAll false body
  | .bar => true
  | .suffix q => ready && decide q.Fits

/-- Whether tokens fit one behind the other. -/
def fitAll (ready : Bool) : List Token → Bool
  | [] => true
  | t :: ts => fits ready t && fitAll t.isOperand ts

end

@[simp] theorem textAll_append (ts us : List Token) : textAll (ts ++ us) = textAll ts ++ textAll us := by
  induction ts with
  | nil => simp [textAll]
  | cons t ts ih => simp [textAll, ih]

theorem fitAll_append (ready : Bool) (ts us : List Token) :
    fitAll ready (ts ++ us) = (fitAll ready ts && fitAll (endsReady ready ts) us) := by
  induction ts generalizing ready with
  | nil => simp [fitAll, endsReady]
  | cons t ts ih => simp [fitAll, endsReady, ih, Bool.and_assoc]

theorem endsReady_append (ready : Bool) (ts us : List Token) :
    endsReady ready (ts ++ us) = endsReady (endsReady ready ts) us := by
  induction ts generalizing ready with
  | nil => rfl
  | cons t ts ih => exact ih _

/-- What fits at the beginning fits anywhere. -/
theorem fitAll_of_false {ts : List Token} (ready : Bool) (h : fitAll false ts = true) :
    fitAll ready ts = true := by
  cases ts with
  | nil => rfl
  | cons t ts =>
    have parts : fits false t = true ∧ fitAll t.isOperand ts = true := by simpa [fitAll] using h
    have first : fits ready t = true := by
      cases t with
      | suffix q => simp [fits] at parts
      | _ => exact parts.1
    simp [fitAll, first, parts.2]

theorem fitAll_cons {ready : Bool} {t : Token} {ts : List Token} :
    fitAll ready (t :: ts) = true ↔ fits ready t = true ∧ fitAll t.isOperand ts = true := by
  simp [fitAll]

theorem endsReady_of_ne_nil {ts : List Token} (some : ts ≠ []) (ready ready' : Bool) :
    endsReady ready ts = endsReady ready' ts := by
  cases ts with
  | nil => exact absurd rfl some
  | cons t ts => rfl

/-- Whether tokens can stand where a sequence begins, and be repeated if there are any. Such tokens can stand
anywhere. -/
structure Whole (ts : List Token) : Prop where
  fit : fitAll false ts = true
  ready : ts ≠ [] → endsReady false ts = true

namespace Whole

variable {ts us : List Token}

theorem nil : Whole [] := ⟨rfl, fun some => absurd rfl some⟩

theorem append (first : Whole ts) (second : Whole us) : Whole (ts ++ us) := by
  refine ⟨?_, fun some => ?_⟩
  · rw [fitAll_append, first.fit, fitAll_of_false _ second.fit]
    rfl
  · rw [endsReady_append]
    by_cases none : us = []
    · rw [none, List.append_nil] at some
      rw [none]
      exact first.ready some
    · rw [endsReady_of_ne_nil none _ false]
      exact second.ready none

theorem atom {a : Atom} (fits : a.fits = true) : Whole [.atom a] := ⟨by simp [fitAll, Token.fits, fits], fun _ => rfl⟩

theorem group (capturing : Bool) (body : Whole ts) : Whole [.group capturing ts] :=
  ⟨by simp [fitAll, fits, body.fit], fun _ => rfl⟩

/-- What has a text can be repeated. -/
theorem suffix (body : Whole ts) (some : ts ≠ []) {q : Quantifier} (fits : q.Fits) :
    Whole (ts ++ [.suffix q]) := by
  refine ⟨?_, fun _ => ?_⟩
  · rw [fitAll_append, body.fit, body.ready some]
    simp [fitAll, Token.fits, fits]
  · rw [endsReady_append]
    rfl

/-- A mark between branches can stand behind anything. -/
theorem bar (first : Whole ts) (second : Whole us) (some : us ≠ []) : Whole (ts ++ .bar :: us) := by
  refine ⟨?_, fun _ => ?_⟩
  · rw [fitAll_append, first.fit]
    simpa [fitAll, fits, isOperand] using second.fit
  · rw [endsReady_append]
    exact second.ready some

end Whole

end Token

end PatternKit.Regex
