import PatternKit.Proofs.EscapedPlaces

/-!
Escaped texts read back. A backslash leads if it is not escaped itself. Without the backslashes that lead, an escaped text
is the text that was escaped, whatever runs of backslashes that has. And the escaped texts are those in which each
backslash that leads stands before a character with a meaning, and each other character with a meaning behind a backslash
that leads.
-/

set_option autoImplicit false

namespace PatternKit.Escape

open Balance (Escapes isPending isPending_append isPending_concat isPending_cons isPending_iff)

/-- Whether a character that stands right behind a text is a backslash and not escaped. -/
def Leads (before : Text) (c : Char) : Prop := c = '\\' ∧ ¬ Escapes before

instance (before : Text) (c : Char) : Decidable (Leads before c) := inferInstanceAs (Decidable (_ ∧ _))

/-- A text without the backslashes that lead. -/
def unescape (t : Text) : Text := (t.zipIdx.filter fun (c, i) => decide (¬ Leads (t.take i) c)).map Prod.fst

/-- Whether a text has the form of an escaped one, where some characters have a meaning. -/
structure Encoded (metas : List Char) (t : Text) : Prop where
  /-- A backslash that leads is followed by one of these characters. -/
  followed {a b : Text} {c : Char} (split : t = a ++ c :: b) (leads : Leads a c) : ∃ d b', b = d :: b' ∧ d ∈ metas
  /-- Each of these characters, unless it is a backslash that leads, is preceded by one. -/
  preceded {a b : Text} {c : Char} (split : t = a ++ c :: b) (special : c ∈ metas) (other : ¬ Leads a c) :
    ∃ a' d, a = a' ++ [d] ∧ Leads a' d

variable {metas : List Char} {a b s t : Text} {c : Char}

/-! Backslashes that lead. -/

/-- What stands behind a text is escaped if the text ends with a backslash that leads. -/
theorem escapes_iff_exists : Escapes a ↔ ∃ a' d, a = a' ++ [d] ∧ Leads a' d := by
  have last (a' : Text) (d : Char) : Escapes (a' ++ [d]) ↔ Leads a' d := by
    rw [Leads, ← isPending_iff, ← isPending_iff, isPending_concat]
    simp [and_comm]
  constructor
  · intro escapes
    rcases List.eq_nil_or_concat a with rfl | ⟨a', d, rfl⟩
    · exact absurd escapes (by decide)
    · rw [List.concat_eq_append] at escapes ⊢
      exact ⟨a', d, rfl, (last a' d).mp escapes⟩
  · rintro ⟨a', d, rfl, leads⟩
    exact (last a' d).mpr leads

/-- A part with nothing pending does not reach into what is behind it. -/
theorem escapes_append (complete : isPending a = false) (b : Text) : Escapes (a ++ b) ↔ Escapes b := by
  rw [← isPending_iff, ← isPending_iff, isPending_append b complete]

theorem leads_append (complete : isPending a = false) (b : Text) (c : Char) : Leads (a ++ b) c ↔ Leads b c := by
  rw [Leads, Leads, escapes_append complete]

theorem leads_nil : Leads [] c ↔ c = '\\' := and_iff_left (by decide)

theorem not_leads_backslash : ¬ Leads ['\\'] c := fun leads => leads.2 (by decide)

/-! Taking them out. -/

theorem unescape_append (complete : isPending a = false) (t : Text) : unescape (a ++ t) = unescape a ++ unescape t := by
  have before : ∀ x ∈ a.zipIdx, decide (¬ Leads ((a ++ t).take x.2) x.1) = decide (¬ Leads (a.take x.2) x.1) := by
    rintro ⟨d, i⟩ member
    have inside : i ≤ a.length := Nat.le_of_lt (List.snd_lt_of_mem_zipIdx member)
    rw [List.take_append_of_le_length inside]
  -- nothing is pending where the second part begins, so that the same leads there as if it stood alone
  have behind (d : Char) (i : Nat) : Leads ((a ++ t).take (a.length + i)) d ↔ Leads (t.take i) d := by
    rw [List.take_length_add_append, leads_append complete]
  rw [unescape, List.zipIdx_append, List.filter_append, List.map_append, Nat.zero_add, List.filter_congr before,
    List.zipIdx_eq_map_add (i := a.length), List.filter_map, List.map_map]
  simp only [Function.comp_def, behind]
  rfl

/-- A backslash is taken out, and the character behind it stays. -/
theorem unescape_backslash (c : Char) (t : Text) : unescape ('\\' :: c :: t) = c :: unescape t := by
  have pair : unescape ['\\', c] = [c] := by
    have first : Leads [] '\\' := leads_nil.mpr rfl
    simp [unescape, List.zipIdx_cons, first, not_leads_backslash]
  have parts := unescape_append (a := ['\\', c]) rfl t
  rw [pair] at parts
  exact parts

theorem unescape_cons (plain : c ≠ '\\') (t : Text) : unescape (c :: t) = c :: unescape t := by
  have complete : isPending [c] = false := by rw [isPending_cons plain]; rfl
  have single : unescape [c] = [c] := by simp [unescape, List.zipIdx_cons, leads_nil, plain]
  have parts := unescape_append complete t
  rw [single] at parts
  exact parts

/-! Escaped texts. -/

theorem encoded_nil (metas : List Char) : Encoded metas [] where
  followed split := by simp at split
  preceded split := by simp at split

/-- A place in a text of two parts is in one of them. -/
private theorem place_cases (split : a ++ t = s ++ c :: b) :
    (∃ r, s = a ++ r ∧ t = r ++ c :: b) ∨ ∃ r, a = s ++ c :: r ∧ b = r ++ t := by
  rcases List.append_eq_append_iff.mp split with ⟨r, rfl, same⟩ | ⟨r, rfl, same⟩
  · exact .inl ⟨r, rfl, same⟩
  · cases r with
    | nil => exact .inl ⟨[], by simp, same.symm⟩
    | cons d r =>
      obtain ⟨rfl, rfl⟩ := List.cons.inj same
      exact .inr ⟨r, rfl, rfl⟩

/-- Two parts have the form of an escaped text just if each of them has, where nothing is pending between them. -/
theorem encoded_append (complete : isPending a = false) : Encoded metas (a ++ t) ↔ Encoded metas a ∧ Encoded metas t := by
  constructor
  · intro encoded
    have first : Encoded metas a := by
      refine ⟨fun {s b c} split leads => ?_, fun {s b c} split special other => ?_⟩
      · have whole : a ++ t = s ++ c :: (b ++ t) := by rw [split, List.append_assoc, List.cons_append]
        obtain ⟨d, rest, same, special⟩ := encoded.followed whole leads
        cases b with
        | nil =>
          -- at the end of the first part it would leave something pending
          have escapes : Escapes a := escapes_iff_exists.mpr ⟨s, c, split, leads⟩
          rw [← isPending_iff, complete] at escapes
          cases escapes
        | cons e b =>
          obtain ⟨rfl, -⟩ := List.cons.inj same
          exact ⟨e, b, rfl, special⟩
      · have whole : a ++ t = s ++ c :: (b ++ t) := by rw [split, List.append_assoc, List.cons_append]
        exact encoded.preceded whole special other
    refine ⟨first, fun {s b c} split leads => ?_, fun {s b c} split special other => ?_⟩
    · have whole : a ++ t = a ++ s ++ c :: b := by rw [split, List.append_assoc]
      exact encoded.followed whole ((leads_append complete s c).mpr leads)
    · have whole : a ++ t = a ++ s ++ c :: b := by rw [split, List.append_assoc]
      have further := encoded.preceded whole special ((leads_append complete s c).not.mpr other)
      exact escapes_iff_exists.mp ((escapes_append complete s).mp (escapes_iff_exists.mpr further))
  · rintro ⟨first, later⟩
    refine ⟨fun {s b c} split leads => ?_, fun {s b c} split special other => ?_⟩
    · rcases place_cases split with ⟨r, rfl, behind⟩ | ⟨r, within, rfl⟩
      · exact later.followed behind ((leads_append complete r c).mp leads)
      · obtain ⟨d, rest, rfl, special⟩ := first.followed within leads
        exact ⟨d, rest ++ t, rfl, special⟩
    · rcases place_cases split with ⟨r, rfl, behind⟩ | ⟨r, within, -⟩
      · have further := later.preceded behind special ((leads_append complete r c).not.mp other)
        exact escapes_iff_exists.mp ((escapes_append complete r).mpr (escapes_iff_exists.mpr further))
      · exact first.preceded within special other

theorem encoded_backslash : Encoded metas ('\\' :: c :: t) ↔ c ∈ metas ∧ Encoded metas t := by
  have pair : Encoded metas ['\\', c] ↔ c ∈ metas := by
    constructor
    · intro encoded
      obtain ⟨d, rest, same, special⟩ := encoded.followed (a := []) rfl (leads_nil.mpr rfl)
      obtain ⟨rfl, -⟩ := List.cons.inj same
      exact special
    · intro special
      -- the only places are those of the two characters
      refine ⟨fun {s b d} split leads => ?_, fun {s b d} split special' other => ?_⟩
      · rcases s with _ | ⟨x, _ | ⟨y, s⟩⟩
        · obtain ⟨-, rfl⟩ := List.cons.inj split
          exact ⟨c, [], rfl, special⟩
        · obtain ⟨rfl, -⟩ := List.cons.inj split
          exact absurd leads not_leads_backslash
        · simp at split
      · rcases s with _ | ⟨x, _ | ⟨y, s⟩⟩
        · obtain ⟨rfl, -⟩ := List.cons.inj split
          exact absurd (leads_nil.mpr rfl) other
        · obtain ⟨rfl, -⟩ := List.cons.inj split
          exact ⟨[], '\\', rfl, leads_nil.mpr rfl⟩
        · simp at split
  have parts : Encoded metas (['\\', c] ++ t) ↔ _ := encoded_append rfl
  rw [pair] at parts
  exact parts

theorem encoded_cons (plain : c ≠ '\\') : Encoded metas (c :: t) ↔ c ∉ metas ∧ Encoded metas t := by
  have complete : isPending [c] = false := by rw [isPending_cons plain]; rfl
  have notLeads : ¬ Leads [] c := leads_nil.not.mpr plain
  have single : Encoded metas [c] ↔ c ∉ metas := by
    have only {s b : Text} {d : Char} (split : [c] = s ++ d :: b) : s = [] ∧ d = c := by
      rcases s with _ | ⟨x, s⟩
      · exact ⟨rfl, (List.cons.inj split).1.symm⟩
      · simp at split
    constructor
    · intro encoded special
      have escapes : Escapes [] := escapes_iff_exists.mpr (encoded.preceded (a := []) rfl special notLeads)
      exact absurd escapes (by decide)
    · intro notSpecial
      refine ⟨fun {s b d} split leads => ?_, fun {s b d} split special other => ?_⟩
      · obtain ⟨rfl, rfl⟩ := only split
        exact absurd leads notLeads
      · obtain ⟨rfl, rfl⟩ := only split
        exact absurd special notSpecial
  have parts : Encoded metas ([c] ++ t) ↔ _ := encoded_append complete
  rw [single] at parts
  exact parts

/-- A backslash at the end leads to nothing. -/
theorem not_encoded_backslash : ¬ Encoded metas ['\\'] := by
  intro encoded
  obtain ⟨d, rest, same, -⟩ := encoded.followed (a := []) rfl (leads_nil.mpr rfl)
  cases same

theorem unescape_escape (backslash : '\\' ∈ metas) (t : Text) : unescape (escape metas t) = t := by
  induction t with
  | nil => rfl
  | cons c t ih =>
    by_cases special : c ∈ metas
    · rw [escape, if_pos special, unescape_backslash, ih]
    · have plain : c ≠ '\\' := by
        rintro rfl
        exact special backslash
      rw [escape, if_neg special, unescape_cons plain, ih]

theorem encoded_escape (backslash : '\\' ∈ metas) (t : Text) : Encoded metas (escape metas t) := by
  induction t with
  | nil => exact encoded_nil metas
  | cons c t ih =>
    by_cases special : c ∈ metas
    · rw [escape, if_pos special]
      exact encoded_backslash.mpr ⟨special, ih⟩
    · have plain : c ≠ '\\' := by
        rintro rfl
        exact special backslash
      rw [escape, if_neg special]
      exact (encoded_cons plain).mpr ⟨special, ih⟩

/-- What has the form of an escaped text is one. By induction along the characters that a backslash takes out. -/
theorem escape_unescape (encoded : Encoded metas t) : escape metas (unescape t) = t := by
  fun_induction isPending t with
  | case1 => rfl
  | case2 => exact absurd encoded not_encoded_backslash
  | case3 c rest ih =>
    obtain ⟨special, later⟩ := encoded_backslash.mp encoded
    rw [unescape_backslash, escape, if_pos special, ih later]
  | case4 c rest plain ih =>
    obtain ⟨notSpecial, later⟩ := (encoded_cons plain).mp encoded
    rw [unescape_cons plain, escape, if_neg notSpecial, ih later]

/-- Whether a way of writing texts, where some characters have a meaning, is undone by taking out the backslashes that lead,
goes part by part, and gives just the texts that have the form of an escaped one. -/
structure ExactCode (metas : List Char) (encode : Text → Text) : Prop where
  unescape_encode (t : Text) : unescape (encode t) = t
  injective : Function.Injective encode
  encode_append (s t : Text) : encode (s ++ t) = encode s ++ encode t
  exists_iff (t : Text) : (∃ s, encode s = t) ↔ Encoded metas t
  encode_unescape (t : Text) (encoded : Encoded metas t) : encode (unescape t) = t

/-- Where the backslash has a meaning itself, escaping is exact. -/
theorem exactCode_escape (backslash : '\\' ∈ metas) : ExactCode metas (escape metas) where
  unescape_encode := unescape_escape backslash
  injective := Function.LeftInverse.injective (unescape_escape backslash)
  encode_append := escape_append metas
  exists_iff t := by
    constructor
    · rintro ⟨s, rfl⟩
      exact encoded_escape backslash s
    · intro encoded
      exact ⟨unescape t, escape_unescape encoded⟩
  encode_unescape _ := escape_unescape

/-- What is written for a text, outside and inside bracketed sets, is an exact code for it: without the backslashes that
lead it is the text again, so that different texts are written differently; parts are written one by one; and what is
written for some text are the texts in which backslashes that lead and characters with a meaning go together. -/
theorem escaping_is_exact : ExactCode literalMetas literal ∧ ExactCode setMetas setMember := by
  have outside : '\\' ∈ literalMetas := by decide
  have inside : '\\' ∈ setMetas := by decide
  exact ⟨exactCode_escape outside, exactCode_escape inside⟩

example : unescape ['\\', '\\', '\\', '.', 'ß'] = ['\\', '.', 'ß'] := by decide

end PatternKit.Escape
