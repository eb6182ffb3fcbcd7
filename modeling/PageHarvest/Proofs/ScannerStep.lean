import PageHarvest.Proofs.Grammar

/-!
# What a step of the scan can be

`Scanner.Step s s'` lists the steps with all that is known about the source when they are taken. `next?_eq_some_iff` says
that they are the steps of the scan; what every step keeps is then shown step by step.

- `tokens_prefix_run`: the tokens emitted stay.
- `not_reads_run`: a step leads to a delimiter only where that delimiter comes next, so no scan gets stuck.
-/

namespace PageHarvest.Scanner

open Text (isSpace)

/-- The fault of an empty name. -/
def Mode.emptyName : Mode → Fault
  | .filterName => .emptyFilter
  | _ => .emptyVariable

/-- The modes that a name can end in front of. -/
def Mode.EndsName (m : Mode) : Prop := m = .pipe ∨ m = .rightDelimiter

/-- **The steps of a scanner.** -/
inductive Step : Scanner → Scanner → Prop
  | textEnd {s : Scanner} : s.mode = .text → s.rest = [] →
      Step s ((s.emitText .text).emit .endOfTemplate .accepted)
  | opening {s : Scanner} : s.mode = .text → Token.opening <+: s.rest → Step s (s.emitText .leftDelimiter)
  | textChar {s : Scanner} {c : Char} {r : Text} : s.mode = .text → s.rest = c :: r → ¬ Token.opening <+: c :: r →
      Step s (s.read c r)
  | delimiter {s : Scanner} {k : Token.Kind} {d r : Text} {m : Mode} : s.mode.delimiter? = some (k, d, m) →
      s.rest = d ++ r → Step s ((s.readDelimiter d r).emit k m)
  | nameEnd {s : Scanner} {k k' : Token.Kind} {d : Text} {m m' : Mode} : s.mode.nameKind? = some k → m.EndsName →
      m.delimiter? = some (k', d, m') → d <+: s.rest → s.lexeme ≠ [] → Step s (s.emit k m)
  | emptyName {s : Scanner} {k k' : Token.Kind} {d : Text} {m m' : Mode} : s.mode.nameKind? = some k → m.EndsName →
      m.delimiter? = some (k', d, m') → d <+: s.rest → s.lexeme = [] → Step s (s.reject s.mode.emptyName)
  | nameChar {s : Scanner} {k : Token.Kind} {c : Char} {r : Text} : s.mode.nameKind? = some k → s.rest = c :: r →
      NameChar c → ¬ Token.closing <+: c :: r → Step s (s.read c r)
  | unclosed {s : Scanner} {k : Token.Kind} : s.mode.nameKind? = some k → s.rest = [] → Step s (s.reject .unclosed)
  | space {s : Scanner} {k : Token.Kind} {c : Char} {r : Text} : s.mode.nameKind? = some k → s.rest = c :: r →
      isSpace c = true → Step s (s.reject (.space c))

/-! ## There are no other steps -/

theorem pair_not_prefix_cons {x c : Char} {r : Text} (h : ∀ r', c = x → r = x :: r' → False) : ¬ [x, x] <+: c :: r := by
  rintro ⟨t, ht⟩
  obtain ⟨rfl, rfl⟩ := List.cons.inj ht
  exact h t rfl rfl

section InName

variable {s : Scanner} {k : Token.Kind} (hk : s.mode.nameKind? = some k)
include hk

theorem step_finishName {k' : Token.Kind} {d : Text} {m m' : Mode} (he : m.EndsName)
    (hm : m.delimiter? = some (k', d, m')) (hr : d <+: s.rest) : Step s (s.finishName k s.mode.emptyName m) := by
  unfold finishName
  split
  · rename_i hl
    exact .emptyName hk he hm hr (s.lexeme_eq_nil_iff.2 hl)
  · rename_i hl
    exact .nameEnd hk he hm hr (mt s.lexeme_eq_nil_iff.1 hl)

theorem step_nextInName : Step s (s.nextInName k s.mode.emptyName) := by
  unfold nextInName
  split
  · exact .unclosed hk ‹_›
  · rename_i r hr
    exact step_finishName hk (.inr rfl) rfl ⟨r, hr.symm⟩
  · rename_i c r hc hr
    split
    · rename_i e
      exact step_finishName hk (.inl rfl) rfl ⟨r, by rw [hr, e]; rfl⟩
    · rename_i hb
      split
      · exact .space hk hr ‹_›
      · rename_i hs
        exact .nameChar hk hr ⟨hb, by simpa using hs⟩ (pair_not_prefix_cons hc)

end InName

theorem step_of_next? {s s' : Scanner} (h : s.next? = some s') : Step s s' := by
  unfold next? at h
  cases hm : s.mode with
  | text =>
    simp only [hm] at h
    split at h <;> cases h
    · exact .textEnd hm ‹_›
    · rename_i r hr
      exact .opening hm ⟨r, hr.symm⟩
    · rename_i hc hr
      exact .textChar hm hr (pair_not_prefix_cons hc)
  | leftDelimiter | pipe | rightDelimiter =>
    simp only [hm] at h
    split at h <;> cases h
    exact .delimiter (by rw [hm]; rfl) ‹_›
  | variableName | filterName =>
    have hs : Step s (s.nextInName _ s.mode.emptyName) := step_nextInName (by rw [hm]; rfl)
    simp only [hm] at h
    cases h
    rwa [hm] at hs
  | accepted | rejected =>
    simp only [hm] at h
    cases h

/-! ## All of them are taken -/

theorem next?_of_nameKind? {s : Scanner} {k : Token.Kind} (hk : s.mode.nameKind? = some k) :
    s.next? = some (s.nextInName k s.mode.emptyName) := by
  unfold next?
  cases hm : s.mode <;> rw [hm] at hk <;> cases hk <;> rfl

section InName

variable {s : Scanner} {k : Token.Kind} {e : Fault}

theorem nextInName_of_delimiter {k' : Token.Kind} {d : Text} {m m' : Mode} (he : m.EndsName)
    (hm : m.delimiter? = some (k', d, m')) (hr : d <+: s.rest) : s.nextInName k e = s.finishName k e m := by
  obtain ⟨r, hr⟩ := hr
  unfold nextInName
  rw [← hr]
  rcases he with rfl | rfl <;> cases hm
  · simp [Token.bar]
  · rfl

theorem nextInName_of_ne_delimiter {c : Char} {r : Text} (hr : s.rest = c :: r) (hb : c ≠ '|')
    (hn : ¬ Token.closing <+: c :: r) :
    s.nextInName k e = if isSpace c then s.reject (.space c) else s.read c r := by
  unfold nextInName
  rw [hr]
  split
  · rename_i h
    cases h
  · rename_i r' h
    exact absurd ⟨r', h.symm⟩ hn
  · rename_i h
    obtain ⟨rfl, rfl⟩ := List.cons.inj h
    rw [if_neg hb]

end InName

theorem next?_of_step {s s' : Scanner} (h : Step s s') : s.next? = some s' := by
  cases h with
  | textEnd hm hr => simp [next?, hm, hr]
  | opening hm hr =>
    obtain ⟨r, hr⟩ := hr
    simp [next?, hm, ← hr, Token.opening]
  | textChar hm hr hn =>
    simp only [next?, hm, hr]
    split
    · rename_i h
      cases h
    · rename_i r' h
      exact absurd ⟨r', h.symm⟩ hn
    · rename_i h
      obtain ⟨rfl, rfl⟩ := List.cons.inj h
      rfl
  | delimiter hd hr =>
    unfold next?
    rw [hr]
    cases hm : s.mode <;> rw [hm] at hd <;> cases hd <;> rfl
  | nameEnd hk he hm hr hl =>
    rw [next?_of_nameKind? hk, nextInName_of_delimiter he hm hr, finishName, if_neg (mt s.lexeme_eq_nil_iff.2 hl)]
  | emptyName hk he hm hr hl =>
    rw [next?_of_nameKind? hk, nextInName_of_delimiter he hm hr, finishName, if_pos (s.lexeme_eq_nil_iff.1 hl)]
  | nameChar hk hr hc hn => rw [next?_of_nameKind? hk, nextInName_of_ne_delimiter hr hc.1 hn, if_neg (by simp [hc.2])]
  | unclosed hk hr => simp [next?_of_nameKind? hk, nextInName, hr]
  | @space k c r hk hr hs =>
    -- neither delimiter begins with white space
    have hdelimiter (x : Char) (hx : isSpace x = false) : c ≠ x := by
      rintro rfl
      cases hs.symm.trans hx
    have hn : ¬ Token.closing <+: c :: r := fun hp => hdelimiter '\x7d' rfl (List.cons_prefix_cons.1 hp).1.symm
    rw [next?_of_nameKind? hk, nextInName_of_ne_delimiter hr (hdelimiter '|' rfl) hn, if_pos hs]

/-- **The steps listed are those of the scan.** -/
theorem next?_eq_some_iff {s s' : Scanner} : s.next? = some s' ↔ Step s s' := ⟨step_of_next?, next?_of_step⟩

/-! ## Tokens are kept -/

@[simp] theorem tokens_read (s : Scanner) (c : Char) (rest : Text) : (s.read c rest).tokens = s.tokens := rfl

@[simp] theorem tokens_readDelimiter (s : Scanner) (d rest : Text) : (s.readDelimiter d rest).tokens = s.tokens := rfl

@[simp] theorem lexeme_emitText (s : Scanner) (mode : Mode) : (s.emitText mode).lexeme = [] := by
  unfold emitText
  split
  · rename_i h
    simp [lexeme, h]
  · rfl

@[simp] theorem tokens_emitText (s : Scanner) (mode : Mode) :
    (s.emitText mode).tokens = s.tokens ++ Token.ofText s.lexeme := by
  unfold emitText
  split
  · rename_i h
    simp [lexeme, h, tokens]
  · rename_i h
    rw [tokens_emit, Token.ofText_of_ne (mt s.lexeme_eq_nil_iff.1 h)]

theorem Step.prefix_tokens {s s' : Scanner} (h : Step s s') : s.tokens <+: s'.tokens := by
  cases h <;> simp

/-- A scan keeps the tokens emitted before. -/
theorem tokens_prefix_run (s : Scanner) : s.tokens <+: s.run.tokens := by
  fun_induction run s with
  | case1 s h => exact List.prefix_rfl
  | case2 s s' h ih => exact (step_of_next? h).prefix_tokens.trans ih

/-! ## No scan gets stuck -/

/-- In front of a delimiter, the delimiter comes next. -/
def Ready (s : Scanner) : Prop := ∀ k d m, s.mode.delimiter? = some (k, d, m) → d <+: s.rest

theorem ready_of_delimiter?_eq_none {s : Scanner} (h : s.mode.delimiter? = none) : s.Ready := by
  intro k d m hd
  cases h.symm.trans hd

theorem ready_of_delimiter? {s : Scanner} {k : Token.Kind} {d : Text} {m : Mode}
    (h : s.mode.delimiter? = some (k, d, m)) (hr : d <+: s.rest) : s.Ready := by
  intro k' d' m' hd
  cases h.symm.trans hd
  exact hr

theorem ready_init (source : Text) : (init source).Ready := ready_of_delimiter?_eq_none rfl

theorem delimiter?_of_nameKind? {m : Mode} {k : Token.Kind} (h : m.nameKind? = some k) : m.delimiter? = none := by
  cases m <;> first | rfl | cases h

/-- The mode behind a delimiter reads characters one by one. -/
theorem delimiter?_behind {m m' : Mode} {k : Token.Kind} {d : Text} (h : m.delimiter? = some (k, d, m')) :
    m'.delimiter? = none := by
  cases m <;> cases h <;> rfl

/-- A step leads to a delimiter mode only in front of the delimiter. -/
theorem Step.ready {s s' : Scanner} (h : Step s s') : s'.Ready := by
  cases h with
  | textEnd => exact ready_of_delimiter?_eq_none rfl
  | opening hm hr => exact ready_of_delimiter? (by rw [mode_emitText]; rfl) (by rwa [rest_emitText])
  | textChar hm => exact ready_of_delimiter?_eq_none (by rw [mode_read, hm]; rfl)
  | delimiter hd hr => exact ready_of_delimiter?_eq_none (delimiter?_behind hd)
  | nameEnd hk he hm hr => exact ready_of_delimiter? hm hr
  | nameChar hk => exact ready_of_delimiter?_eq_none (delimiter?_of_nameKind? hk)
  | emptyName | unclosed | space => exact ready_of_delimiter?_eq_none rfl

/-- The modes that read the source. -/
def Mode.Reads : Mode → Prop
  | .accepted | .rejected _ => False
  | _ => True

theorem reads_of_nameKind? {m : Mode} {k : Token.Kind} (h : m.nameKind? = some k) : m.Reads := by
  cases m <;> trivial

theorem reads_of_delimiter? {m : Mode} {d : Token.Kind × Text × Mode} (h : m.delimiter? = some d) : m.Reads := by
  cases m <;> trivial

theorem reads_behind_delimiter {m m' : Mode} {k : Token.Kind} {d : Text} (h : m.delimiter? = some (k, d, m')) :
    m'.Reads := by
  cases m <;> cases h <;> trivial

theorem Mode.EndsName.reads {m : Mode} (h : m.EndsName) : m.Reads := by
  rcases h with rfl | rfl <;> trivial

/-- Only a scanner that reads the source takes a step. -/
theorem Step.reads {s s' : Scanner} (h : Step s s') : s.mode.Reads := by
  cases h with
  | textEnd hm | opening hm | textChar hm => simp [hm, Mode.Reads]
  | delimiter hd => exact reads_of_delimiter? hd
  | nameEnd hk | emptyName hk | nameChar hk | unclosed hk | space hk => exact reads_of_nameKind? hk

/-- A scanner that reads the source goes on. -/
theorem next?_ne_none {s : Scanner} (hs : s.Ready) (hm : s.mode.Reads) : s.next? ≠ none := by
  cases e : s.mode with
  | text =>
    simp only [next?, e]
    split <;> simp
  | variableName | filterName => simp [next?, e]
  | leftDelimiter | pipe | rightDelimiter =>
    obtain ⟨r, hr⟩ := hs _ _ _ (by rw [e]; rfl)
    simp [next?, e, ← hr, Token.opening, Token.bar, Token.closing]
  | accepted | rejected =>
    rw [e] at hm
    exact hm.elim

/-- Every scan ends by accepting or by rejecting. -/
theorem not_reads_run {s : Scanner} (hs : s.Ready) : ¬ s.run.mode.Reads := by
  fun_induction run s with
  | case1 s h => exact fun hm => next?_ne_none hs hm h
  | case2 s s' h ih => exact ih (step_of_next? h).ready

end PageHarvest.Scanner
