import PatternKit.Draft.Script

/-!
What holds all along a run: of the draft that it leaves, and of all the drafts that its records show, those of
the scripts inside its commands included.
-/

set_option autoImplicit false

namespace PatternKit

/-! The drafts that a record shows: those of the script inside the command, then the one after it. -/

mutual

def Entry.drafts : Entry → List Draft
  | .mk _ d none => [d]
  | .mk _ d (some body) => Entry.draftsAll body ++ [d]

def Entry.draftsAll : List Entry → List Draft
  | [] => []
  | e :: es => e.drafts ++ Entry.draftsAll es

end

theorem Entry.draftsAll_append (es fs : List Entry) :
    Entry.draftsAll (es ++ fs) = Entry.draftsAll es ++ Entry.draftsAll fs := by
  induction es with
  | nil => rfl
  | cons e es ih => simp [Entry.draftsAll, ih]

/-- Whether the draft that a run leaves, and all those it shows, have a property. -/
structure Progress.Keeps (I : Draft → Prop) (p : Progress) : Prop where
  draft : I p.draft
  shown : ∀ d ∈ Entry.draftsAll p.entries, I d

namespace Progress.Keeps

variable {I : Draft → Prop} {d : Draft}

private theorem single (holds : I d) {body : Option (List Entry)}
    (within : ∀ es ∈ body, ∀ d ∈ Entry.draftsAll es, I d) (result : Except PatternError Reply)
    (log : List LogEvent) (failure : Option PatternError) :
    Keeps I ⟨d, [.mk result d body], log, failure⟩ := by
  refine ⟨holds, fun d' member => ?_⟩
  cases body with
  | none =>
    obtain rfl : d' = d := by simpa [Entry.draftsAll, Entry.drafts] using member
    exact holds
  | some es =>
    have parts : d' ∈ Entry.draftsAll es ∨ d' = d := by
      simpa [Entry.draftsAll, Entry.drafts] using member
    rcases parts with inside | rfl
    · exact within es rfl d' inside
    · exact holds

/-- A command without a script inside it shows one draft. -/
theorem plain (holds : I d) (result : Except PatternError Reply) (log : List LogEvent)
    (failure : Option PatternError) : Keeps I ⟨d, [.mk result d none], log, failure⟩ :=
  single holds (fun _ none => by cases none) result log failure

theorem repeated {outcome : Draft.Outcome Quantifier} (holds : I outcome.draft) (operation : String) :
    Keeps I (.repeated operation outcome) := by
  obtain ⟨result, d⟩ := outcome
  cases result <;> exact plain holds _ _ _

theorem answered (holds : I d) (reply : Logged (Except PatternError Reply)) :
    Keeps I (.answered d reply) := by
  obtain ⟨result, log⟩ := reply
  cases result <;> exact plain holds _ _ _

/-- A composition shows the drafts of its script, and then one of three: the draft as it was, or with what the
script has made. -/
theorem composed {child : Progress} (holds : I d) (within : child.Keeps I)
    (group : ∀ capturing, I (d.enclose child.draft.components capturing))
    (alternative : I (d.alternate child.draft.components)) (composition : Composition) :
    Keeps I (.composed d composition child) := by
  obtain ⟨made, entries, log, failure⟩ := child
  have body : ∀ es ∈ some entries, ∀ d ∈ Entry.draftsAll es, I d := by
    rintro _ ⟨⟩
    exact within.shown
  cases failure with
  | some e => exact single holds body _ _ _
  | none =>
    cases composition with
    | group => exact single (group true) body _ _ _
    | nonCapturingGroup => exact single (group false) body _ _ _
    | alternative => exact single alternative body _ _ _

/-- After its first command a script goes on only where that has not failed. -/
theorem runAll_cons {engine : Engine} {c : Command} {cs : List Command} (first : (c.run engine d).Keeps I)
    (rest : (c.run engine d).failure = none → (Command.runAll engine (c.run engine d).draft cs).Keeps I) :
    (Command.runAll engine d (c :: cs)).Keeps I := by
  rw [Command.runAll]
  cases failure : (c.run engine d).failure with
  | some e => exact first
  | none =>
    refine ⟨(rest failure).draft, fun d' member => ?_⟩
    rw [Entry.draftsAll_append] at member
    rcases List.mem_append.mp member with member | member
    · exact first.shown d' member
    · exact (rest failure).shown d' member

end Progress.Keeps

end PatternKit
