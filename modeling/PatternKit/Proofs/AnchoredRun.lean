import PatternKit.Proofs.CodeBlocks
import PatternKit.Proofs.EngineBounds

/-!
Runs behind an anchor. In front of a program an instruction may stand that asks for the beginning of the text. From
there the run is that of the program alone, one address further on; from any other place there is no run. So what is
found from the beginning is what the program alone finds there, if it finds anything there.
-/

set_option autoImplicit false

namespace PatternKit.Regex

/-! A run takes no more steps than it has. -/

/-- The offsets of the places of a text. -/
def Cursor.places (offset : Nat) : Text → List Nat
  | [] => [offset]
  | c :: cs => offset :: places (offset + c.utf8Size) cs

theorem Cursor.length_places (offset : Nat) (h : Text) : (places offset h).length = h.length + 1 := by
  induction h generalizing offset with
  | nil => rfl
  | cons c cs ih => rw [places, List.length_cons, ih, List.length_cons]

theorem Cursor.mem_places (offset : Nat) (s u : Text) : offset + s.byteSize ∈ places offset (s ++ u) := by
  induction s generalizing offset with
  | nil => cases u <;> exact List.mem_cons_self
  | cons c s ih =>
    have further := ih (offset + c.utf8Size)
    rw [Nat.add_assoc, ← Text.byteSize_cons] at further
    exact List.mem_cons_of_mem _ further

theorem Cursor.From.mem_places {h : Text} {c : Cursor} (place : c.From h 0) : c.offset ∈ places 0 h := by
  obtain ⟨-, s, split, size⟩ := place
  have there := Cursor.mem_places 0 s c.rest
  rwa [Nat.zero_add, ← split, ← size] at there

namespace Program

variable {p : Program} {h : Text} {visited : Visited}

/-- Whether no instruction leads further than behind the program. -/
def Closed (p : Program) : Prop := ∀ i ∈ p.code, i.Within p.code.size

/-- Whether a thread is in a program and in a text. -/
structure Holds (p : Program) (h : Text) (t : Thread) : Prop where
  address : t.address ≤ p.code.size
  place : t.cursor.From h 0

/-- The numbers of all addresses at some places. -/
def keysAt (p : Program) (places : List Nat) : List Nat :=
  places.flatMap fun offset => (List.range (p.code.size + 1)).map fun address => offset * (p.code.size + 1) + address

/-- The numbers of all addresses and places. -/
def keys (p : Program) (h : Text) : List Nat := p.keysAt (Cursor.places 0 h)

theorem length_keysAt (p : Program) (places : List Nat) :
    (p.keysAt places).length = places.length * (p.code.size + 1) := by
  have row (offset : Nat) :
      ((List.range (p.code.size + 1)).map fun address => offset * (p.code.size + 1) + address).length =
        p.code.size + 1 := by
    rw [List.length_map, List.length_range]
  rw [keysAt, List.length_flatMap]
  simp only [row]
  rw [List.map_const', List.sum_replicate_nat]

theorem key_mem_keysAt {places : List Nat} {t : Thread} (address : t.address ≤ p.code.size)
    (place : t.cursor.offset ∈ places) : p.key t ∈ p.keysAt places := by
  refine List.mem_flatMap.mpr ⟨t.cursor.offset, place, ?_⟩
  exact List.mem_map.mpr ⟨t.address, List.mem_range.mpr (Nat.lt_succ_of_le address), rfl⟩

theorem Holds.key_mem {t : Thread} (holds : p.Holds h t) : p.key t ∈ p.keys h :=
  key_mem_keysAt holds.address holds.place.mem_places

/-- How many addresses and places have not been visited. -/
def unvisited (p : Program) (h : Text) (visited : Visited) : Nat :=
  (p.keys h).countP fun k => !visited.contains k

/-- A visit leaves less to be visited. -/
theorem countP_insert_lt {keys : List Nat} {k : Nat} (member : k ∈ keys) (fresh : visited.contains k = false) :
    (keys.countP fun k' => !(visited.insert k).contains k') < keys.countP fun k' => !visited.contains k' := by
  obtain ⟨before, behind, split⟩ := List.append_of_mem member
  have fewer (l : List Nat) : l.countP (fun k' => !(visited.insert k).contains k') ≤
      l.countP fun k' => !visited.contains k' := by
    refine List.countP_mono_left fun k' _ out => ?_
    rw [Std.HashSet.contains_insert] at out
    simp only [Bool.not_or, Bool.and_eq_true] at out
    exact out.2
  have here : (!(visited.insert k).contains k) = false := by simp
  rw [split, List.countP_append, List.countP_append, List.countP_cons, List.countP_cons, here, fresh]
  have first := fewer before
  have second := fewer behind
  simp only [Bool.not_false, if_true, Bool.false_eq_true, if_false]
  omega

/-! The program behind an anchor. -/

/-- A program with an instruction in front of it that asks for the beginning of the text. -/
def anchored (p : Program) : Program := ⟨(.look .start :: p.code.toList.map (.shift 1)).toArray⟩

theorem size_anchored (p : Program) : p.anchored.code.size = p.code.size + 1 := by
  simp [anchored]

theorem anchored_first (p : Program) : p.anchored.code[0]? = some (.look .start) := rfl

theorem anchored_next (p : Program) (address : Nat) :
    p.anchored.code[address + 1]? = p.code[address]?.map (Instruction.shift 1) := by
  simp [anchored]

end Program

/-- A thread one address further on. -/
def Thread.raise (t : Thread) : Thread := { t with address := t.address + 1 }

theorem Thread.step_raise (t : Thread) (i : Instruction) : t.raise.step (i.shift 1) = (t.step i).map Thread.raise := by
  have reads (accepts : Char → Bool) : t.raise.read accepts = (t.read accepts).map Thread.raise := by
    unfold Thread.read Thread.raise
    cases t.cursor.rest with
    | nil => rfl
    | cons c cs =>
      dsimp only
      split <;> rfl
  cases i with
  | char c => exact reads _
  | set s => exact reads _
  | look l =>
    show t.raise.step (.look l) = _
    rw [step, step]
    have place : t.raise.cursor = t.cursor := rfl
    rw [place]
    split <;> rfl
  | _ => rfl

namespace Program

variable {p : Program} {h : Text} {visited visited' : Visited} {t : Thread}

theorem key_eq_iff {n a b o q : Nat} (first : a ≤ n) (second : b ≤ n) :
    o * (n + 1) + a = q * (n + 1) + b ↔ o = q ∧ a = b := by
  constructor
  · intro same
    have row (r c : Nat) (le : c ≤ n) : (r * (n + 1) + c) / (n + 1) = r := by
      rw [Nat.add_comm, Nat.add_mul_div_right _ _ (Nat.succ_pos n), Nat.div_eq_of_lt (Nat.lt_succ_of_le le),
        Nat.zero_add]
    have rows : o = q := by rw [← row o a first, same, row q b second]
    subst rows
    exact ⟨rfl, Nat.add_left_cancel same⟩
  · rintro ⟨rfl, rfl⟩
    rfl

/-- Whether the visits of a run are those of another one, one address further on. -/
def Raised (p : Program) (h : Text) (visited visited' : Visited) : Prop :=
  ∀ t, p.Holds h t → visited'.contains (p.anchored.key t.raise) = visited.contains (p.key t)

theorem Raised.insert (raised : p.Raised h visited visited') (holds : p.Holds h t) :
    p.Raised h (visited.insert (p.key t)) (visited'.insert (p.anchored.key t.raise)) := by
  intro u holds'
  have same : (p.anchored.key t.raise == p.anchored.key u.raise) = (p.key t == p.key u) := by
    rw [Bool.eq_iff_iff, beq_iff_eq, beq_iff_eq]
    have plain := key_eq_iff (o := t.cursor.offset) (q := u.cursor.offset) holds.address holds'.address
    have behind := key_eq_iff (o := t.cursor.offset) (q := u.cursor.offset) (Nat.succ_le_succ holds.address)
      (Nat.succ_le_succ holds'.address)
    unfold key
    rw [size_anchored, plain]
    exact behind.trans (and_congr_right fun _ => Nat.succ_inj)
  rw [Std.HashSet.contains_insert, Std.HashSet.contains_insert, same, raised u holds']

theorem Holds.step (holds : p.Holds h t) (closed : p.Closed) {i : Instruction} (there : p.code[t.address]? = some i) :
    ∀ u ∈ t.step i, p.Holds h u := by
  obtain ⟨inside, same⟩ := Array.getElem?_eq_some_iff.mp there
  have within : i.Within p.code.size := closed i (same ▸ Array.getElem_mem inside)
  have next : t.address + 1 ≤ p.code.size := inside
  have reads {accepts : Char → Bool} {u : Thread} (member : u ∈ t.read accepts) : u.address = t.address + 1 := by
    rw [Thread.read] at member
    cases rest : t.cursor.rest with
    | nil =>
      rw [rest] at member
      cases member
    | cons c cs =>
      rw [rest] at member
      dsimp only at member
      split at member
      · rw [List.mem_singleton.mp member]
      · cases member
  intro u member
  refine ⟨?_, Thread.step_from holds.place member⟩
  cases i with
  | char c => exact Nat.le_trans (Nat.le_of_eq (reads member)) next
  | set s => exact Nat.le_trans (Nat.le_of_eq (reads member)) next
  | look l =>
    rw [Thread.step] at member
    split at member
    · rw [List.mem_singleton.mp member]
      exact next
    · cases member
  | save slot =>
    rw [List.mem_singleton.mp member]
    exact next
  | split first second =>
    have targets : u = t.goto first ∨ u = t.goto second := by simpa [Thread.step] using member
    rcases targets with rfl | rfl
    · exact within.1
    · exact within.2
  | jump target =>
    rw [List.mem_singleton.mp member]
    exact within

theorem length_step_le (t : Thread) (i : Instruction) : (t.step i).length ≤ 2 := by
  have reads (accepts : Char → Bool) : (t.read accepts).length ≤ 2 := by
    unfold Thread.read
    split
    · exact Nat.zero_le _
    · split <;> simp
  cases i with
  | char c => exact reads _
  | set s => exact reads _
  | look l =>
    rw [Thread.step]
    split <;> simp
  | _ => simp [Thread.step]

/-- Behind the anchor the run is the same, as long as both may take as many steps as there are threads and places to
visit. By induction on the steps: a thread that goes on where another one has been leaves one thread less, any other
one leaves a place less to visit and one thread more at most. -/
theorem explore_anchored (closed : p.Closed) {fuel fuel' : Nat} {ts : List Thread} (holds : ∀ t ∈ ts, p.Holds h t)
    (raised : p.Raised h visited visited') (enough : ts.length + 2 * p.unvisited h visited < fuel)
    (enough' : ts.length + 2 * p.unvisited h visited < fuel') :
    (p.anchored.explore fuel' visited' (ts.map Thread.raise)).1 = (p.explore fuel visited ts).1.map Thread.raise := by
  induction fuel generalizing fuel' visited visited' ts with
  | zero => omega
  | succ fuel ih =>
    cases fuel' with
    | zero => omega
    | succ fuel' =>
      cases ts with
      | nil => rfl
      | cons t ts =>
        have here : p.Holds h t := holds t List.mem_cons_self
        have others : ∀ u ∈ ts, p.Holds h u := fun u member => holds u (List.mem_cons_of_mem _ member)
        rw [List.map_cons, explore, explore, raised t here]
        rw [List.length_cons] at enough enough'
        by_cases been : visited.contains (p.key t) = true
        · rw [if_pos been, if_pos been]
          exact ih others raised (by omega) (by omega)
        · rw [if_neg been, if_neg been]
          have next := anchored_next p t.address
          cases there : p.code[t.address]? with
          | none =>
            rw [there] at next
            have behind : p.anchored.code[t.raise.address]? = none := next
            rw [behind]
            rfl
          | some i =>
            rw [there] at next
            have behind : p.anchored.code[t.raise.address]? = some (i.shift 1) := next
            rw [behind]
            dsimp only
            rw [Thread.step_raise, ← List.map_append]
            have fresh : visited.contains (p.key t) = false := by simpa using been
            have less : p.unvisited h (visited.insert (p.key t)) < p.unvisited h visited :=
              countP_insert_lt here.key_mem fresh
            have more := length_step_le t i
            refine ih (fun u member => ?_) (raised.insert here) ?_ ?_
            · rcases List.mem_append.mp member with new | waiting
              · exact here.step closed there u new
              · exact others u waiting
            · rw [List.length_append]
              omega
            · rw [List.length_append]
              omega

/-- A run from the beginning of a text has as many steps as it needs. -/
theorem unvisited_le_steps (p : Program) (h : Text) (visited : Visited) :
    1 + 2 * p.unvisited h visited < p.steps h := by
  have le : p.unvisited h visited ≤ (h.length + 1) * (p.code.size + 1) := by
    rw [← Cursor.length_places 0 h, ← length_keysAt]
    exact List.countP_le_length
  have same : 2 * (p.code.size + 1) * (h.length + 1) = 2 * ((h.length + 1) * (p.code.size + 1)) := by
    rw [Nat.mul_assoc, Nat.mul_comm (p.code.size + 1)]
  unfold steps
  omega

/-- From the beginning of a text the run passes the anchor, and goes on as without it. -/
theorem runAt_anchored (closed : p.Closed) (h : Text) :
    (p.anchored.runAt {} (.first h)).1 = (p.runAt {} (.first h)).1.map Thread.raise := by
  let start : Thread := ⟨0, .first h, []⟩
  have holds : p.Holds h start := ⟨Nat.zero_le _, Cursor.from_of_split none (List.nil_append h).symm rfl⟩
  -- the anchor is at address zero, where no thread behind it comes
  have raised : p.Raised h {} (({} : Visited).insert (p.anchored.key start)) := by
    intro t _
    have zero : p.anchored.key start = 0 := by simp [key, start, Cursor.first]
    have other : (0 == p.anchored.key t.raise) = false := beq_eq_false_iff_ne.mpr (Nat.succ_ne_zero _).symm
    rw [Std.HashSet.contains_insert, zero, other]
    simp
  have enough : [start].length + 2 * p.unvisited h {} < p.steps h := p.unvisited_le_steps h {}
  have more : p.steps h + 1 ≤ p.anchored.steps h := by
    have double : 2 * (p.code.size + 1 + 1) = 2 * (p.code.size + 1) + 2 := rfl
    unfold steps
    rw [size_anchored, double, Nat.add_mul]
    omega
  obtain ⟨fuel, fuelled⟩ : ∃ fuel, p.anchored.steps h = fuel + 1 := ⟨_, (Nat.sub_add_cancel (by omega)).symm⟩
  have enough' : [start].length + 2 * p.unvisited h {} < fuel := by omega
  have same := explore_anchored closed (by simpa using holds) raised enough enough'
  have passes : p.anchored.explore (fuel + 1) {} [start] =
      p.anchored.explore fuel (({} : Visited).insert (p.anchored.key start)) [start.raise] := by
    have fresh : ¬ ({} : Visited).contains (p.anchored.key start) = true := by simp
    rw [explore, if_neg fresh]
    rfl
  show (p.anchored.explore (p.anchored.steps h) {} [start]).1 = _
  rw [fuelled, passes]
  exact same

private theorem explore_nil (p : Program) (fuel : Nat) (visited : Visited) :
    p.explore fuel visited [] = (none, visited) := by
  cases fuel <;> rfl

/-- From any other place there is no run. -/
theorem runAt_anchored_later (visited : Visited) {c : Cursor} (later : c.before.isSome = true) :
    (p.anchored.runAt visited c).1 = none := by
  obtain ⟨fuel, fuelled⟩ : ∃ fuel, p.anchored.steps c.rest = fuel + 1 := ⟨_, rfl⟩
  have blocked : Look.holds .start c = false := by
    rw [Look.holds, Option.isNone_eq_false_iff]
    exact later
  have step : (⟨0, c, []⟩ : Thread).step (.look .start) = [] := by rw [Thread.step, if_neg (by rw [blocked]; simp)]
  rw [runAt, fuelled, explore]
  by_cases been : visited.contains (p.anchored.key ⟨0, c, []⟩) = true
  · rw [if_pos been, explore_nil]
  · rw [if_neg been, anchored_first]
    dsimp only
    rw [step, List.nil_append, explore_nil]

theorem search_anchored_later (visited : Visited) {before : Option Char} (later : before.isSome = true) (offset : Nat)
    (u : Text) : p.anchored.search visited before offset u = none := by
  induction u generalizing visited before offset with
  | nil => rw [search, runAt_anchored_later visited later, Option.map_none]
  | cons c cs ih =>
    have none_ := runAt_anchored_later (p := p) visited (c := ⟨before, offset, c :: cs⟩) later
    rw [search]
    split
    · rename_i t visited' accepted
      rw [accepted] at none_
      cases none_
    · exact ih _ rfl _

theorem find?_zero (p : Program) (h : Text) : p.find? h 0 = p.search {} none 0 h := by
  cases h <;> rfl

/-- What is found behind the anchor is what the program finds if that starts with the text. -/
theorem find?_anchored (closed : p.Closed) (h : Text) :
    p.anchored.find? h 0 =
      ((p.find? h 0).filter fun found => found.1 == 0).map fun found => (found.1, found.2.raise) := by
  have first := runAt_anchored closed h
  rw [find?_zero, find?_zero]
  cases h with
  | nil =>
    rw [search, search]
    rw [Cursor.first] at first
    rw [first]
    cases (p.runAt {} ⟨none, 0, []⟩).1 <;> rfl
  | cons c cs =>
    rw [search, search]
    rw [Cursor.first] at first
    cases plain : p.runAt {} ⟨none, 0, c :: cs⟩ with
    | mk found visited =>
      cases behind : p.anchored.runAt {} ⟨none, 0, c :: cs⟩ with
      | mk found' visited' =>
        rw [plain, behind] at first
        dsimp only at first
        cases found with
        | some t =>
          obtain rfl : found' = some t.raise := first
          rfl
        | none =>
          obtain rfl : found' = none := first
          dsimp only
          rw [search_anchored_later visited' rfl]
          cases later : p.search visited (some c) (0 + c.utf8Size) cs with
          | none => rfl
          | some hit =>
            obtain ⟨start, t⟩ := hit
            have split : c :: cs = [c] ++ cs := rfl
            have size : 0 + c.utf8Size = Text.byteSize [c] := by simp
            have behind := (search_from split size later).1
            have wide : 0 < c.utf8Size := c.utf8Size_pos
            have notFirst : (start == 0) = false := beq_eq_false_iff_ne.mpr (by omega)
            simp [Option.filter, notFirst]

end Program

end PatternKit.Regex
