import PatternKit.Proofs.NormalForm

/-!
What runs find. A run finds something if any way through the program leads to its end: a thread that ends where another
one has been is not missed, as whatever it could find that one finds. So a program that begins and ends with an anchor
finds something in the texts that the expression between them matches, and in no others.
-/

set_option autoImplicit false

namespace PatternKit.Regex

namespace Program

/-- Whether a thread stands in a program, and at a place of a text. -/
structure Stands (p : Program) (h : Text) (t : Thread) : Prop where
  address : t.address ≤ p.code.size
  place : ∃ s u, h = s ++ u ∧ t.cursor = .between s u

variable {p : Program} {h : Text} {visited : Visited} {t t' u : Thread} {i : Instruction}

theorem Stands.holds (stands : p.Stands h t) : p.Holds h t := by
  obtain ⟨s, u, split, place⟩ := stands.place
  refine ⟨stands.address, ?_⟩
  rw [place]
  exact ⟨Nat.zero_le _, s, split, rfl⟩

/-- The number of an address and an offset tells both, and the offset tells the place. -/
theorem Stands.eq_of_key_eq (stands : p.Stands h t) (stands' : p.Stands h t') (same : p.key t = p.key t') :
    t'.address = t.address ∧ t'.cursor = t.cursor := by
  obtain ⟨s, u, split, place⟩ := stands.place
  obtain ⟨s', u', split', place'⟩ := stands'.place
  obtain ⟨offsets, addresses⟩ := (key_eq_iff stands.address stands'.address).mp same
  rw [place, place'] at offsets
  have sizes : s.byteSize = s'.byteSize := offsets
  have parts : s = s' := by
    rw [← Text.takeBytes_byteSize_append s u, ← split, sizes, split', Text.takeBytes_byteSize_append]
  subst parts
  obtain rfl : u = u' := List.append_cancel_left (split.symm.trans split')
  exact ⟨addresses.symm, place'.trans place.symm⟩

theorem Stands.step (stands : p.Stands h t) (closed : p.Closed) (there : p.code[t.address]? = some i)
    (next : u ∈ t.step i) : p.Stands h u := by
  refine ⟨(stands.holds.step closed there u next).address, ?_⟩
  obtain ⟨s, rest, split, place⟩ := stands.place
  have reads {accepts : Char → Bool} (next : u ∈ t.read accepts) :
      ∃ s rest, h = s ++ rest ∧ u.cursor = .between s rest := by
    rw [Thread.read, place] at next
    cases rest with
    | nil => cases next
    | cons d rest =>
      simp only [Cursor.between] at next
      split at next
      · rw [List.mem_singleton.mp next]
        exact ⟨s ++ [d], rest, by simp [split], by simp [Cursor.between]⟩
      · cases next
  cases i with
  | char c => exact reads next
  | set s => exact reads next
  | look l =>
    rw [Thread.step] at next
    split at next
    · rw [List.mem_singleton.mp next]
      exact ⟨s, rest, split, place⟩
    · cases next
  | save slot =>
    rw [List.mem_singleton.mp next]
    exact ⟨s, rest, split, place⟩
  | split first second =>
    have targets : u = t.goto first ∨ u = t.goto second := by simpa [Thread.step] using next
    rcases targets with rfl | rfl
    · exact ⟨s, rest, split, place⟩
    · exact ⟨s, rest, split, place⟩
  | jump target =>
    rw [List.mem_singleton.mp next]
    exact ⟨s, rest, split, place⟩

/-! Ways to the end. -/

/-- Whether a way to the end of a program leads from a thread past everything that has been visited. -/
inductive Escapes (p : Program) (visited : Visited) : Thread → Prop
  | stop {t : Thread} (fresh : visited.contains (p.key t) = false) (ended : p.code[t.address]? = none) :
      p.Escapes visited t
  | step {t u : Thread} {i : Instruction} (fresh : visited.contains (p.key t) = false)
      (there : p.code[t.address]? = some i) (next : u ∈ t.step i) (rest : p.Escapes visited u) : p.Escapes visited t

/-- What a thread has noted does not matter to where it goes. -/
theorem step_same (t t' : Thread) (address : t'.address = t.address) (cursor : t'.cursor = t.cursor)
    (next : u ∈ t.step i) : ∃ u' ∈ t'.step i, u'.address = u.address ∧ u'.cursor = u.cursor := by
  obtain ⟨a, c, saved⟩ := t
  obtain ⟨a', c', saved'⟩ := t'
  obtain rfl : a' = a := address
  obtain rfl : c' = c := cursor
  have reads {accepts : Char → Bool} (next : u ∈ Thread.read ⟨a', c', saved⟩ accepts) :
      ∃ u' ∈ Thread.read ⟨a', c', saved'⟩ accepts, u'.address = u.address ∧ u'.cursor = u.cursor := by
    unfold Thread.read at next ⊢
    dsimp only at next ⊢
    split at next
    · cases next
    · split at next
      · rename_i read
        rw [if_pos read, List.mem_singleton.mp next]
        exact ⟨_, List.mem_cons_self, rfl, rfl⟩
      · cases next
  cases i with
  | char d => exact reads next
  | set s => exact reads next
  | look l =>
    unfold Thread.step at next ⊢
    dsimp only at next ⊢
    split at next
    · rename_i holds
      rw [if_pos holds, List.mem_singleton.mp next]
      exact ⟨_, List.mem_cons_self, rfl, rfl⟩
    · cases next
  | save slot =>
    rw [List.mem_singleton.mp next]
    exact ⟨_, List.mem_cons_self, rfl, rfl⟩
  | split first second =>
    have targets : u = Thread.goto ⟨a', c', saved⟩ first ∨ u = Thread.goto ⟨a', c', saved⟩ second := by
      simpa [Thread.step] using next
    rcases targets with rfl | rfl
    · exact ⟨_, List.mem_cons_self, rfl, rfl⟩
    · exact ⟨_, List.mem_cons_of_mem _ List.mem_cons_self, rfl, rfl⟩
  | jump target =>
    rw [List.mem_singleton.mp next]
    exact ⟨_, List.mem_cons_self, rfl, rfl⟩

theorem Escapes.same (escapes : p.Escapes visited t) (address : t'.address = t.address)
    (cursor : t'.cursor = t.cursor) : p.Escapes visited t' := by
  have key {t t' : Thread} (address : t'.address = t.address) (cursor : t'.cursor = t.cursor) :
      p.key t' = p.key t := by rw [key, key, address, cursor]
  induction escapes generalizing t' with
  | stop fresh ended => exact .stop (by rwa [key address cursor]) (by rwa [address])
  | step fresh there next _ ih =>
    obtain ⟨u', next', address', cursor'⟩ := step_same _ _ address cursor next
    exact .step (by rwa [key address cursor]) (by rwa [address]) next' (ih address' cursor')

theorem Escapes.of_insert {k : Nat} (escapes : p.Escapes (visited.insert k) t) : p.Escapes visited t := by
  have fewer {k' : Nat} (fresh : (visited.insert k).contains k' = false) : visited.contains k' = false := by
    rw [Std.HashSet.contains_insert, Bool.or_eq_false_iff] at fresh
    exact fresh.2
  induction escapes with
  | stop fresh ended => exact .stop (fewer fresh) ended
  | step fresh there next _ ih => exact .step (fewer fresh) there next ih

/-- A way that comes to a thread may be left for the way on from that thread. -/
theorem Escapes.insert (escapes : p.Escapes visited u) (closed : p.Closed) (stands : p.Stands h u)
    (here : p.Stands h t) (there : p.code[t.address]? = some i) :
    p.Escapes (visited.insert (p.key t)) u ∨ ∃ w ∈ t.step i, p.Escapes (visited.insert (p.key t)) w := by
  have fresh_ {u : Thread} (fresh : visited.contains (p.key u) = false) (other : p.key t ≠ p.key u) :
      (visited.insert (p.key t)).contains (p.key u) = false := by
    rw [Std.HashSet.contains_insert, fresh, Bool.or_false]
    exact beq_eq_false_iff_ne.mpr other
  induction escapes with
  | stop fresh ended =>
    refine .inl (.stop (fresh_ fresh fun same => ?_) ended)
    rw [(here.eq_of_key_eq stands same).1, there] at ended
    cases ended
  | @step u w j fresh thereU next rest ih =>
    rcases ih (stands.step closed thereU next) with onward | back
    · by_cases same : p.key t = p.key u
      · obtain ⟨address, cursor⟩ := here.eq_of_key_eq stands same
        obtain rfl : j = i := by
          rw [address, there] at thereU
          exact (Option.some.inj thereU).symm
        obtain ⟨w', next', address', cursor'⟩ := step_same _ _ address.symm cursor.symm next
        exact .inr ⟨w', next', onward.same address' cursor'⟩
      · exact .inl (.step (fresh_ fresh same) thereU next onward)
    · exact .inr back

/-- The numbers of threads that are not before a place. -/
def keysFrom (p : Program) (s u : Text) : List Nat := p.keysAt (Cursor.places s.byteSize u)

/-- A thread that is not before a place has one of these numbers. -/
theorem Stands.key_mem {s v : Text} (stands : p.Stands h t) (split : h = s ++ v) (ahead : s.byteSize ≤ t.cursor.offset) :
    p.key t ∈ p.keysFrom s v := by
  refine key_mem_keysAt stands.address ?_
  obtain ⟨s', u, split', place⟩ := stands.place
  rw [place] at ahead ⊢
  have le : s.byteSize ≤ s'.byteSize := ahead
  have between : ∃ a, s' = s ++ a ∧ v = a ++ u := by
    rcases Nat.eq_or_lt_of_le le with same | later
    · have parts : s = s' := by
        rw [← Text.takeBytes_byteSize_append s v, ← split, same, split', Text.takeBytes_byteSize_append]
      subst parts
      exact ⟨[], (List.append_nil _).symm, List.append_cancel_left (split.symm.trans split')⟩
    · obtain ⟨a, -, grown, left⟩ := Text.suffix_of_byteSize_lt (split.symm.trans split') later
      exact ⟨a, grown, left⟩
  obtain ⟨a, rfl, rfl⟩ := between
  show (s ++ a).byteSize ∈ _
  rw [Text.byteSize_append]
  exact Cursor.mem_places s.byteSize a u

/-- When a thread is visited, the threads that wait then stand in the program too, and there are enough steps left for
them. -/
theorem explore_next (closed : p.Closed) {s v : Text} (split : h = s ++ v) {fuel : Nat} {ts : List Thread}
    (here : p.Stands h t) (ahead : s.byteSize ≤ t.cursor.offset)
    (others : ∀ u ∈ ts, p.Stands h u ∧ s.byteSize ≤ u.cursor.offset) (fresh : visited.contains (p.key t) = false)
    (there : p.code[t.address]? = some i)
    (enough : ts.length + 1 + 2 * ((p.keysFrom s v).countP fun k => !visited.contains k) < fuel + 1) :
    (∀ u ∈ t.step i ++ ts, p.Stands h u ∧ s.byteSize ≤ u.cursor.offset) ∧
      (t.step i ++ ts).length + 2 * ((p.keysFrom s v).countP fun k => !(visited.insert (p.key t)).contains k) < fuel := by
  have less := countP_insert_lt (here.key_mem split ahead) fresh
  have more := length_step_le t i
  constructor
  · intro u member
    rcases List.mem_append.mp member with new | waiting
    · have further : u.cursor.From h t.cursor.offset := Thread.step_from ⟨Nat.le_refl _, here.holds.place.2⟩ new
      exact ⟨here.step closed there new, Nat.le_trans ahead further.1⟩
    · exact others u waiting
  · rw [List.length_append]
    omega

/-- A run that may take as many steps as there are threads and places to visit accepts if any of its threads has a way
to the end. The places to visit are those from a certain one on. -/
theorem explore_isSome (closed : p.Closed) {s v : Text} (split : h = s ++ v) {fuel : Nat} {ts : List Thread}
    (stands : ∀ t ∈ ts, p.Stands h t ∧ s.byteSize ≤ t.cursor.offset)
    (enough : ts.length + 2 * ((p.keysFrom s v).countP fun k => !visited.contains k) < fuel) :
    (p.explore fuel visited ts).1.isSome = true ↔ ∃ t ∈ ts, p.Escapes visited t := by
  induction fuel generalizing visited ts with
  | zero => omega
  | succ fuel ih =>
    cases ts with
    | nil => simp [explore]
    | cons t ts =>
      obtain ⟨here, ahead⟩ := stands t List.mem_cons_self
      have others : ∀ u ∈ ts, p.Stands h u ∧ s.byteSize ≤ u.cursor.offset := fun u member =>
        stands u (List.mem_cons_of_mem _ member)
      rw [explore]
      rw [List.length_cons] at enough
      by_cases been : visited.contains (p.key t) = true
      · have stuck : ¬ p.Escapes visited t := by
          intro escapes
          cases escapes with
          | stop fresh _ => exact Bool.false_ne_true (fresh.symm.trans been)
          | step fresh _ _ _ => exact Bool.false_ne_true (fresh.symm.trans been)
        rw [if_pos been, ih others (by omega)]
        simp [stuck]
      · have fresh : visited.contains (p.key t) = false := by simpa using been
        rw [if_neg been]
        cases there : p.code[t.address]? with
        | none =>
          exact iff_of_true rfl ⟨t, List.mem_cons_self, .stop fresh there⟩
        | some i =>
          obtain ⟨next, less⟩ := explore_next closed split here ahead others fresh there (by omega)
          dsimp only
          rw [ih next less]
          constructor
          · rintro ⟨u, member, escapes⟩
            rcases List.mem_append.mp member with new | waiting
            · exact ⟨t, List.mem_cons_self, .step fresh there new escapes.of_insert⟩
            · exact ⟨u, List.mem_cons_of_mem _ waiting, escapes.of_insert⟩
          · rintro ⟨u, member, escapes⟩
            rcases escapes.insert closed (stands u member).1 here there with onward | ⟨w, new, onward⟩
            · rcases List.mem_cons.mp member with rfl | waiting
              · cases onward with
                | stop fresh _ => simp at fresh
                | step fresh _ _ _ => simp at fresh
              · exact ⟨u, List.mem_append_right _ waiting, onward⟩
            · exact ⟨w, List.mem_append_left _ new, onward⟩

/-- A run that accepts after an instruction accepts before it, with one step more. -/
theorem AcceptsIn.after {goal : Cursor} {n : Nat} (accepts : p.AcceptsIn goal n u.address u.cursor)
    (there : p.code[t.address]? = some i) (next : u ∈ t.step i) : p.AcceptsIn goal (n + 1) t.address t.cursor := by
  obtain ⟨u', next', address, cursor⟩ := step_same t ⟨t.address, t.cursor, []⟩ rfl rfl next
  exact ⟨i, there, u', next', by rwa [address, cursor]⟩

theorem escapes_iff (p : Program) (t : Thread) :
    p.Escapes {} t ↔ ∃ goal n, p.AcceptsIn goal n t.address t.cursor := by
  constructor
  · intro escapes
    induction escapes with
    | @stop t _ ended => exact ⟨t.cursor, 0, ended, rfl⟩
    | @step t u i _ there next _ ih =>
      obtain ⟨goal, n, accepts⟩ := ih
      exact ⟨goal, n + 1, accepts.after there next⟩
  · rintro ⟨goal, n, accepts⟩
    induction n generalizing t with
    | zero => exact .stop (by simp) accepts.1
    | succ n ih =>
      obtain ⟨i, there, u, next, accepts⟩ := accepts
      obtain ⟨u', next', address, cursor⟩ := step_same ⟨t.address, t.cursor, []⟩ t rfl rfl next
      exact .step (by simp) there next' (ih u' (by rwa [address, cursor]))

theorem stands_first (p : Program) (s v : Text) :
    ∀ t ∈ [(⟨0, .between s v, []⟩ : Thread)], p.Stands (s ++ v) t ∧ s.byteSize ≤ t.cursor.offset := by
  intro t member
  rw [List.mem_singleton.mp member]
  exact ⟨⟨Nat.zero_le _, s, v, rfl, rfl⟩, Nat.le_refl _⟩

/-- A run from a place has as many steps as it needs. -/
theorem fresh_lt_steps (p : Program) (s v : Text) (visited : Visited) :
    1 + 2 * ((p.keysFrom s v).countP fun k => !visited.contains k) < p.steps v := by
  have le : ((p.keysFrom s v).countP fun k => !visited.contains k) ≤ (v.length + 1) * (p.code.size + 1) := by
    rw [← Cursor.length_places s.byteSize v, ← length_keysAt]
    exact List.countP_le_length
  have same : 2 * (p.code.size + 1) * (v.length + 1) = 2 * ((v.length + 1) * (p.code.size + 1)) := by
    rw [Nat.mul_assoc, Nat.mul_comm (p.code.size + 1)]
  unfold steps
  omega

/-- A run from a place accepts if there is a way from there to the end of the program, past what has been visited. -/
theorem runAt_escapes (closed : p.Closed) (visited : Visited) (s v : Text) :
    (p.runAt visited (.between s v)).1.isSome = true ↔ p.Escapes visited ⟨0, .between s v, []⟩ := by
  rw [runAt]
  exact (explore_isSome closed rfl (p.stands_first s v) (p.fresh_lt_steps s v visited)).trans (by simp)

/-- A run from the beginning of a text accepts if there is a way from there to the end of the program. -/
theorem runAt_isSome (closed : p.Closed) (h : Text) :
    (p.runAt {} (.first h)).1.isSome = true ↔ ∃ goal n, p.AcceptsIn goal n 0 (.between [] h) :=
  (runAt_escapes closed {} [] h).trans (escapes_iff p _)

/-- Behind an anchor something is found if it is found from the beginning. -/
theorem find?_anchored_isSome (closed : p.Closed) (h : Text) :
    (p.anchored.find? h 0).isSome = (p.runAt {} (.first h)).1.isSome := by
  have first : (p.runAt {} (.first h)).1.isSome = (p.anchored.runAt {} (.first h)).1.isSome := by
    rw [runAt_anchored closed h, Option.isSome_map]
  rw [first, find?_zero]
  cases h with
  | nil =>
    rw [Cursor.first, search]
    simp
  | cons c cs =>
    rw [Cursor.first, search]
    split
    · rename_i t visited accepted
      rw [accepted]
      rfl
    · rename_i visited refused
      rw [refused, search_anchored_later visited rfl]
      rfl

end Program

/-! What programs accept. -/

namespace Program

variable {p : Program} {a : Nat} {c goal : Cursor} {P : Text → Prop} {Q : Text → Text → Prop}

/-- Whether a program accepts behind just the texts with a property, which may depend on where they stand: `P s w v` says
that `w` has it between `s` and `v`. -/
def Accepts (p : Program) (P : Text → Text → Text → Prop) : Prop :=
  ∀ (s u : Text) (goal : Cursor),
    (∃ n, p.AcceptsIn goal n 0 (.between s u)) ↔ ∃ w v, u = w ++ v ∧ P s w v ∧ goal = .between (s ++ w) v

theorem Accepts.congr {P P' : Text → Text → Text → Prop} (accepts : p.Accepts P)
    (same : ∀ s w v, P s w v ↔ P' s w v) : p.Accepts P' := by
  obtain rfl : P = P' := funext fun s => funext fun w => funext fun v => propext (same s w v)
  exact accepts

theorem acceptsIn_end (ended : p.code[a]? = none) : (∃ n, p.AcceptsIn goal n a c) ↔ goal = c := by
  constructor
  · rintro ⟨n, accepts⟩
    cases n with
    | zero => exact accepts.2.symm
    | succ n =>
      obtain ⟨i, there, -⟩ := accepts
      rw [ended] at there
      cases there
  · rintro rfl
    exact ⟨0, ended, rfl⟩

/-- Code that reads texts, and what decides behind it whether a run goes on to the end. -/
theorem Reads.accepts (reads : p.Reads 0 a P)
    (behind : ∀ s v goal, (∃ n, p.AcceptsIn goal n a (.between s v)) ↔ Q s v ∧ goal = .between s v) :
    p.Accepts fun s w v => P w ∧ Q (s ++ w) v := by
  intro s u goal
  constructor
  · rintro ⟨n, accepts⟩
    obtain ⟨w, v, m, -, rfl, read, accepts⟩ := reads.sound n s u accepts
    obtain ⟨holds, rfl⟩ := (behind _ _ _).mp ⟨m, accepts⟩
    exact ⟨w, v, rfl, ⟨read, holds⟩, rfl⟩
  · rintro ⟨w, v, rfl, ⟨read, holds⟩, rfl⟩
    obtain ⟨n, accepts⟩ := (behind _ _ _).mpr ⟨holds, rfl⟩
    exact reads.complete n s w v read accepts

/-- The program of an expression accepts behind the texts that the expression matches. -/
theorem accepts_ofExpr {e : Expr} (plain : e.Unconditional) : (ofExpr e).Accepts fun _ w _ => e.Matches w := by
  have size : (e.code 0).length = e.codeSize := (Expr.code_isBlock e).length 0
  have there : (ofExpr e).At 0 (e.code 0) := by
    intro j _
    rw [Nat.zero_add]
    exact List.getElem?_toArray ..
  have ended : (ofExpr e).code[0 + e.codeSize]? = none := by
    rw [Nat.zero_add, ← size]
    exact Array.getElem?_eq_none (Nat.le_of_eq List.size_toArray)
  have accepts := (Expr.reads_code e plain 0 there).accepts (Q := fun _ _ => True) fun s v goal => by
    rw [acceptsIn_end ended, true_and]
  exact accepts.congr fun _ _ _ => and_iff_left trivial

/-- With a condition behind it the program of expressions accepts behind the texts that these match one after the other,
where the condition holds. -/
theorem accepts_condition {es : List Expr} (plain : Expr.UnconditionalAll es) (l : Look) :
    (ofExpr (.ofList (es ++ [.look l]))).Accepts fun s w v =>
      Expr.MatchesAll es w ∧ l.holds (.between (s ++ w) v) = true := by
  have code : (ofExpr (.ofList (es ++ [.look l]))).code = (Expr.codes 0 es ++ [Instruction.look l]).toArray := by
    rw [ofExpr, Expr.code_ofList, Expr.codes_append]
    rfl
  have size : (Expr.codes 0 es).length = Expr.codeSizes es := (Expr.codes_isBlock es).length 0
  have there : (ofExpr (.ofList (es ++ [.look l]))).At 0 (Expr.codes 0 es) := by
    intro j less
    rw [code, Nat.zero_add, List.getElem?_toArray, List.getElem?_append_left less]
  have condition : (ofExpr (.ofList (es ++ [.look l]))).code[0 + Expr.codeSizes es]? = some (.look l) := by
    rw [code, Nat.zero_add, List.getElem?_toArray, ← size, List.getElem?_concat_length]
  have ended : (ofExpr (.ofList (es ++ [.look l]))).code[0 + Expr.codeSizes es + 1]? = none := by
    rw [code, List.getElem?_toArray, List.getElem?_eq_none]
    simp [size]
  refine (Expr.reads_codes es plain 0 there).accepts (Q := fun s v => l.holds (.between s v) = true) fun s v goal => ?_
  rw [← acceptsIn_end ended]
  constructor
  · rintro ⟨n, accepts⟩
    obtain ⟨m, -, holds, accepts⟩ := (acceptsIn_look condition).mp accepts
    exact ⟨holds, m, accepts⟩
  · rintro ⟨holds, m, accepts⟩
    exact ⟨m + 1, (acceptsIn_look condition).mpr ⟨m, rfl, holds, accepts⟩⟩

end Program

/-! Matching the whole of a text. -/

namespace Expr

/-- An expression between two anchors. -/
def whole (e : Expr) : Expr := ofList [.look .start, e, .look .stop]

end Expr

namespace Program

theorem ofExpr_whole (e : Expr) : ofExpr e.whole = (ofExpr (.ofList [e, .look .stop])).anchored := by
  have code : e.whole.code 0 = (Expr.ofList [e, .look .stop]).anchored.code 0 := by
    simp only [Expr.whole, Expr.anchored, Expr.code_ofList, Expr.codes, List.append_nil]
  rw [← ofExpr_anchored, ofExpr, ofExpr, code]

/-- Before an anchor at the end a program accepts the texts that the expression matches. -/
theorem acceptsIn_stop {e : Expr} (plain : e.Unconditional) (h : Text) :
    (∃ goal n, (ofExpr (.ofList [e, .look .stop])).AcceptsIn goal n 0 (.between [] h)) ↔ e.Matches h := by
  have alone : Expr.UnconditionalAll [e] := ⟨plain, trivial⟩
  have accepts := accepts_condition alone .stop
  constructor
  · rintro ⟨goal, run⟩
    obtain ⟨w, v, rfl, ⟨matched, ended⟩, -⟩ := (accepts [] h goal).mp run
    have none : v = [] := by simpa [Look.holds, Cursor.between] using ended
    rw [none, List.append_nil]
    exact Expr.matchesAll_singleton.mp matched
  · intro matched
    refine ⟨_, (accepts [] h _).mpr ⟨h, [], (List.append_nil h).symm, ⟨?_, rfl⟩, rfl⟩⟩
    exact Expr.matchesAll_singleton.mpr matched

end Program

/-- The searcher for an expression between two anchors finds something in the texts that the expression matches. -/
theorem searcher_whole {e : Expr} (plain : e.Unconditional) (text h : Text) :
    (searcher text e.whole).isMatch h = true ↔ e.Matches h := by
  have closed := Program.ofExpr_closed (.ofList [e, .look .stop])
  show (((Program.ofExpr e.whole).find? h 0).map _).isSome = true ↔ _
  rw [Option.isSome_map, Program.ofExpr_whole, Program.find?_anchored_isSome closed, Program.runAt_isSome closed,
    Program.acceptsIn_stop plain]

end PatternKit.Regex
