import Mathlib.Data.Set.Function
import PageHarvest.Proofs.ScannerStep

/-!
# What a scan accepts

`Scanner.Ahead s ts` says that the grammar lets a scanner in the state `s` emit `ts` and be done with the source.

- `Step.conserves`: a step neither gains nor loses any such token list.
- `ahead_iff_run`: what is ahead of a scanner is what it emits, provided that it accepts.
- `tokenize_iff_wellFormed`: a source is accepted with the tokens `ts` exactly if `ts` is well formed and covers it.
-/

namespace PageHarvest

namespace Scanner

open Text (isSpace)

/-! ## What is ahead of a scanner -/

/-- The scanner reads a name of kind `k`, and `ts` begins with this name. -/
def AheadInName (s : Scanner) (k : Token.Kind) (ts : List Token) : Prop :=
  ∃ n us, s.rest = n ++ Token.print us ∧ ts = ⟨k, s.lexeme ++ n⟩ :: us ∧ s.lexeme ++ n ≠ [] ∧
    (∀ c ∈ n, NameChar c) ∧ Clear Token.closing n (Token.print us) ∧ (Follows .pipe us ∨ Follows .rightDelimiter us)

/-- The scanner is in front of the delimiter `d`, and `ts` begins with it and goes on in mode `m`. -/
def AheadAt (s : Scanner) (k : Token.Kind) (d : Text) (m : Mode) (ts : List Token) : Prop :=
  ∃ us, s.rest = d ++ Token.print us ∧ ts = ⟨k, s.lexeme ++ d⟩ :: us ∧ Follows m us

/-- The tokens `ts` can be read from the state `s` on, up to the end of the source. -/
def Ahead (s : Scanner) (ts : List Token) : Prop :=
  match s.mode with
  | .text => ∃ t us, s.rest = t ++ Token.print us ∧ ts = Token.ofText (s.lexeme ++ t) ++ us ∧
      Clear Token.opening t (Token.print us) ∧ (us = [Token.final] ∨ Follows .leftDelimiter us)
  | .leftDelimiter => s.AheadAt .leftDelimiter Token.opening .variableName ts
  | .variableName => s.AheadInName .variableName ts
  | .pipe => s.AheadAt .pipe Token.bar .filterName ts
  | .filterName => s.AheadInName .filterName ts
  | .rightDelimiter => s.AheadAt .rightDelimiter Token.closing .text ts
  | .accepted => ts = []
  | .rejected _ => False

theorem Mode.reads_cases {m : Mode} (h : m.Reads) :
    m = .text ∨ (∃ k d m', m.delimiter? = some (k, d, m')) ∨ ∃ k, m.nameKind? = some k := by
  cases m with
  | text => exact .inl rfl
  | leftDelimiter | pipe | rightDelimiter => exact .inr (.inl ⟨_, _, _, rfl⟩)
  | variableName | filterName => exact .inr (.inr ⟨_, rfl⟩)
  | accepted | rejected => exact h.elim

section Modes

variable {s : Scanner} {ts : List Token}

theorem ahead_text (h : s.mode = .text) : s.Ahead ts ↔ ∃ t us, s.rest = t ++ Token.print us ∧
    ts = Token.ofText (s.lexeme ++ t) ++ us ∧ Clear Token.opening t (Token.print us) ∧
    (us = [Token.final] ∨ Follows .leftDelimiter us) := by
  rw [Ahead, h]

theorem ahead_delimiter {k : Token.Kind} {d : Text} {m : Mode} (h : s.mode.delimiter? = some (k, d, m)) :
    s.Ahead ts ↔ s.AheadAt k d m ts := by
  obtain ⟨mode, _, _, _, _⟩ := s
  cases mode <;> cases h <;> rfl

theorem ahead_name {k : Token.Kind} (h : s.mode.nameKind? = some k) : s.Ahead ts ↔ s.AheadInName k ts := by
  obtain ⟨mode, _, _, _, _⟩ := s
  cases mode <;> cases h <;> rfl

theorem ahead_accepted (h : s.mode = .accepted) : s.Ahead ts ↔ ts = [] := by
  rw [Ahead, h]

theorem not_ahead_rejected {f : Fault} (h : s.mode = .rejected f) : ¬ s.Ahead ts := by
  rw [Ahead, h]
  exact id

/-- At the beginning of a lexeme, what is ahead is what the grammar lets follow. -/
theorem ahead_iff_follows (hl : s.lexeme = []) (hm : s.mode.Reads) :
    s.Ahead ts ↔ Token.print ts = s.rest ∧ Follows s.mode ts := by
  rcases Mode.reads_cases hm with h | ⟨k, d, m, h⟩ | ⟨k, h⟩
  · rw [ahead_text h, h, follows_text_iff, hl]
    constructor
    · rintro ⟨t, us, hr, rfl, hc⟩
      exact ⟨by simp [hr], t, us, rfl, hc⟩
    · rintro ⟨hr, t, us, rfl, hc⟩
      exact ⟨t, us, by simp [← hr], rfl, hc⟩
  · rw [ahead_delimiter h, follows_delimiter_iff h, AheadAt, hl]
    constructor
    · rintro ⟨us, hr, rfl, hf⟩
      exact ⟨hr.symm, us, rfl, hf⟩
    · rintro ⟨hr, us, rfl, hf⟩
      exact ⟨us, hr.symm, rfl, hf⟩
  · rw [ahead_name h, follows_name_iff h, AheadInName, hl]
    constructor
    · rintro ⟨n, us, hr, rfl, hn⟩
      exact ⟨hr.symm, n, us, rfl, hn⟩
    · rintro ⟨hr, n, us, rfl, hn⟩
      exact ⟨n, us, hr.symm, rfl, hn⟩

end Modes

/-! ## One step -/

/-- The text of tokens that begin with a delimiter. -/
theorem print_of_follows {m m' : Mode} {k : Token.Kind} {d : Text} (hd : m.delimiter? = some (k, d, m'))
    {ts : List Token} (h : Follows m ts) : ∃ t, Token.print ts = d ++ t := by
  obtain ⟨us, rfl, -⟩ := (follows_delimiter_iff hd).1 h
  exact ⟨_, Token.print_cons _ _⟩

/-- What the grammar lets follow a name begins with a bar or with two closing braces. -/
theorem print_behind_name {us : List Token} (h : Follows .pipe us ∨ Follows .rightDelimiter us) :
    ∃ t, Token.print us = '|' :: t ∨ Token.print us = '\x7d' :: '\x7d' :: t := by
  rcases h with h | h
  · obtain ⟨t, ht⟩ := print_of_follows rfl h
    exact ⟨t, .inl ht⟩
  · obtain ⟨t, ht⟩ := print_of_follows rfl h
    exact ⟨t, .inr ht⟩

/-- The tokens ahead of `s` are those ahead of `s'`, behind the tokens emitted in between. -/
def Conserves (s s' : Scanner) : Prop :=
  ∀ ts, s.Ahead ts ↔ ∃ us, s.tokens ++ ts = s'.tokens ++ us ∧ s'.Ahead us

/-- A step that emits nothing. -/
theorem Conserves.of_tokens_eq {s s' : Scanner} (h : s'.tokens = s.tokens) (ha : ∀ ts, s.Ahead ts ↔ s'.Ahead ts) :
    Conserves s s' := by
  intro ts
  rw [ha, h]
  constructor
  · exact fun hs => ⟨ts, rfl, hs⟩
  · rintro ⟨us, e, hs⟩
    exact List.append_cancel_left e ▸ hs

/-- A step that emits `vs`. -/
theorem Conserves.of_tokens_append {s s' : Scanner} {vs : List Token} (h : s'.tokens = s.tokens ++ vs)
    (ha : ∀ ts, s.Ahead ts ↔ ∃ us, ts = vs ++ us ∧ s'.Ahead us) : Conserves s s' := by
  intro ts
  rw [ha, h]
  simp only [List.append_assoc, List.append_cancel_left_eq]

/-- A step into a fault. -/
theorem Conserves.of_reject {s : Scanner} {f : Fault} (h : ∀ ts, ¬ s.Ahead ts) : Conserves s (s.reject f) := by
  intro ts
  constructor
  · exact fun hs => absurd hs (h ts)
  · rintro ⟨us, -, hs⟩
    exact absurd hs (not_ahead_rejected rfl)

/-- Emitting a token. -/
theorem Conserves.of_emit {s : Scanner} {k : Token.Kind} {m : Mode} (hm : m.Reads)
    (ha : ∀ ts, s.Ahead ts ↔ ∃ us, ts = ⟨k, s.lexeme⟩ :: us ∧ Token.print us = s.rest ∧ Follows m us) :
    Conserves s (s.emit k m) :=
  .of_tokens_append (s.tokens_emit k m) fun ts => by
    simp only [ha, ahead_iff_follows (s.lexeme_emit k m) hm, rest_emit, mode_emit, List.singleton_append]

/-! ### Literal text -/

section InText

variable {s : Scanner} (h : s.mode = .text)
include h

theorem conserves_textEnd (hr : s.rest = []) :
    Conserves s ((s.emitText .text).emit .endOfTemplate .accepted) := by
  have ht : ((s.emitText .text).emit .endOfTemplate .accepted).tokens =
      s.tokens ++ (Token.ofText s.lexeme ++ [Token.final]) := by simp [Token.final]
  refine .of_tokens_append ht fun ts => ?_
  simp only [ahead_accepted (mode_emit _ _ _), ahead_text h, hr]
  constructor
  · rintro ⟨t, us, e, rfl, -, rfl | hf⟩
    · have ht : t = [] := (List.append_eq_nil_iff.1 e.symm).1
      exact ⟨[], by simp [ht], rfl⟩
    · obtain ⟨x, hx⟩ := print_of_follows rfl hf
      simp [hx, Token.opening] at e
  · rintro ⟨us, rfl, rfl⟩
    exact ⟨[], [Token.final], rfl, by simp, trivial, .inl rfl⟩

theorem conserves_opening (hr : Token.opening <+: s.rest) : Conserves s (s.emitText .leftDelimiter) := by
  have hm : (s.emitText .leftDelimiter).mode.Reads := by rw [mode_emitText]; trivial
  refine .of_tokens_append (s.tokens_emitText .leftDelimiter) fun ts => ?_
  simp only [ahead_iff_follows (s.lexeme_emitText _) hm, ahead_text h, rest_emitText, mode_emitText]
  constructor
  · rintro ⟨t, us, e, rfl, hc, hu⟩
    cases t with
    | cons c t =>
      rw [e] at hr
      exact absurd hr hc.1
    | nil =>
      rcases hu with rfl | hf
      · rw [e] at hr
        simp [Token.opening] at hr
      · exact ⟨us, by simp, e.symm, hf⟩
  · rintro ⟨us, rfl, e, hf⟩
    exact ⟨[], us, e.symm, by simp, trivial, .inr hf⟩

theorem conserves_textChar {c : Char} {r : Text} (hr : s.rest = c :: r) (hn : ¬ Token.opening <+: c :: r) :
    Conserves s (s.read c r) := by
  refine .of_tokens_eq (s.tokens_read c r) fun ts => ?_
  have h' : (s.read c r).mode = .text := h
  simp only [ahead_text h, ahead_text h', hr, rest_read, lexeme_read]
  constructor
  · rintro ⟨t, us, e, rfl, hc, hu⟩
    cases t with
    | cons c' t =>
      obtain ⟨rfl, rfl⟩ := List.cons.inj e
      exact ⟨t, us, rfl, by simp, hc.2, hu⟩
    | nil =>
      -- nothing that the grammar lets follow a text begins with this character
      rcases hu with rfl | hf
      · cases e
      · obtain ⟨x, hx⟩ := print_of_follows rfl hf
        exact absurd ⟨x, (e.trans hx).symm⟩ hn
  · rintro ⟨t, us, rfl, rfl, hc, hu⟩
    exact ⟨c :: t, us, rfl, by simp, ⟨hn, hc⟩, hu⟩

end InText

/-! ### Delimiters -/

theorem conserves_delimiter {s : Scanner} {k : Token.Kind} {d r : Text} {m : Mode}
    (h : s.mode.delimiter? = some (k, d, m)) (hr : s.rest = d ++ r) :
    Conserves s ((s.readDelimiter d r).emit k m) := by
  have hm : m.Reads := reads_behind_delimiter h
  refine .of_tokens_append ((s.readDelimiter d r).tokens_emit k m) fun ts => ?_
  simp only [ahead_delimiter h, AheadAt, ahead_iff_follows (lexeme_emit _ k m) hm, hr, rest_emit, mode_emit,
    rest_readDelimiter, lexeme_readDelimiter, List.append_cancel_left_eq]
  constructor
  · rintro ⟨us, rfl, rfl, hf⟩
    exact ⟨us, rfl, rfl, hf⟩
  · rintro ⟨us, rfl, rfl, hf⟩
    exact ⟨us, rfl, rfl, hf⟩

/-! ### Names -/

section InName

variable {s : Scanner} {k : Token.Kind} (h : s.mode.nameKind? = some k)
include h

/-- No name goes on where the source ends or white space comes next. -/
theorem not_ahead_of_space (hr : ∀ c r, s.rest = c :: r → isSpace c = true) (ts : List Token) : ¬ s.Ahead ts := by
  rw [ahead_name h]
  rintro ⟨n, us, e, -, -, hn, -, hu⟩
  cases n with
  | cons c n =>
    have hc := (hn c List.mem_cons_self).2
    rw [hr c _ e] at hc
    cases hc
  | nil =>
    obtain ⟨x, hx | hx⟩ := print_behind_name hu
    · exact absurd (hr _ _ (e.trans hx)) (by decide)
    · exact absurd (hr _ _ (e.trans hx)) (by decide)

/-- Where a bar or the closing delimiter comes next, nothing but the name read so far is ahead. -/
theorem ahead_iff_of_delimiter {m m' : Mode} {k' : Token.Kind} {d : Text} (he : m.EndsName)
    (hm : m.delimiter? = some (k', d, m')) (hr : d <+: s.rest) {ts : List Token} : s.Ahead ts ↔
      s.lexeme ≠ [] ∧ ∃ us, ts = ⟨k, s.lexeme⟩ :: us ∧ Token.print us = s.rest ∧ Follows m us := by
  rw [ahead_name h]
  constructor
  · rintro ⟨n, us, e, rfl, hne, hn, hc, hu⟩
    cases n with
    | cons c n =>
      rw [e] at hr
      rcases he with rfl | rfl <;> cases hm
      · have hb : '|' = c := (List.cons_prefix_cons.1 hr).1
        exact absurd hb.symm (hn c List.mem_cons_self).1
      · exact absurd hr hc.1
    | nil =>
      refine ⟨by simpa using hne, us, by simp, e.symm, ?_⟩
      -- the two delimiters begin with different characters
      obtain ⟨x, hx⟩ := hr
      rcases he with rfl | rfl <;> cases hm <;> rcases hu with hu | hu
      · exact hu
      · obtain ⟨y, hy⟩ := print_of_follows rfl hu
        exact absurd (hx.trans (e.trans hy)) (by simp [Token.bar, Token.closing])
      · obtain ⟨y, hy⟩ := print_of_follows rfl hu
        exact absurd (hx.trans (e.trans hy)) (by simp [Token.bar, Token.closing])
      · exact hu
  · rintro ⟨hne, us, rfl, e, hu⟩
    refine ⟨[], us, e.symm, by simp, by simpa using hne, by simp, trivial, ?_⟩
    rcases he with rfl | rfl
    · exact .inl hu
    · exact .inr hu

theorem conserves_nameEnd {m m' : Mode} {k' : Token.Kind} {d : Text} (he : m.EndsName)
    (hm : m.delimiter? = some (k', d, m')) (hr : d <+: s.rest) (hl : s.lexeme ≠ []) : Conserves s (s.emit k m) := by
  refine .of_emit he.reads fun ts => ?_
  rw [ahead_iff_of_delimiter h he hm hr, and_iff_right hl]

/-- A character that neither ends a name nor is forbidden in it. -/
theorem conserves_nameChar {c : Char} {r : Text} (hr : s.rest = c :: r) (hc : NameChar c)
    (hn : ¬ Token.closing <+: c :: r) : Conserves s (s.read c r) := by
  refine .of_tokens_eq (s.tokens_read c r) fun ts => ?_
  have h' : (s.read c r).mode.nameKind? = some k := h
  simp only [ahead_name h, ahead_name h', AheadInName, hr, rest_read, lexeme_read]
  constructor
  · rintro ⟨n, us, e, rfl, hne, hs, hd, hu⟩
    cases n with
    | cons c' n =>
      obtain ⟨rfl, rfl⟩ := List.cons.inj e
      exact ⟨n, us, rfl, by simp, by simp, fun x hx => hs x (List.mem_cons_of_mem _ hx), hd.2, hu⟩
    | nil =>
      obtain ⟨x, hx | hx⟩ := print_behind_name hu
      · exact absurd (List.cons.inj (e.trans hx)).1 hc.1
      · exact absurd ⟨x, (e.trans hx).symm⟩ hn
  · rintro ⟨n, us, rfl, rfl, hne, hs, hd, hu⟩
    refine ⟨c :: n, us, rfl, by simp, by simp, fun x hx => ?_, ⟨hn, hd⟩, hu⟩
    rcases List.mem_cons.1 hx with rfl | hx
    · exact hc
    · exact hs x hx

end InName

/-- **A step neither gains nor loses tokens that can be read.** -/
theorem Step.conserves {s s' : Scanner} (h : Step s s') : Conserves s s' := by
  cases h with
  | textEnd hm hr => exact conserves_textEnd hm hr
  | opening hm hr => exact conserves_opening hm hr
  | textChar hm hr hn => exact conserves_textChar hm hr hn
  | delimiter hd hr => exact conserves_delimiter hd hr
  | nameEnd hk he hm hr hl => exact conserves_nameEnd hk he hm hr hl
  | emptyName hk he hm hr hl => exact .of_reject fun ts hs => ((ahead_iff_of_delimiter hk he hm hr).1 hs).1 hl
  | nameChar hk hr hc hn => exact conserves_nameChar hk hr hc hn
  | unclosed hk hr => exact .of_reject (not_ahead_of_space hk (by simp [hr]))
  | space hk hr hs =>
    refine .of_reject (not_ahead_of_space hk fun c' r' e => ?_)
    obtain ⟨rfl, -⟩ := List.cons.inj (hr.symm.trans e)
    exact hs

/-! ## A whole scan -/

/-- The tokens that can be read from a state on are those that the scan emits, if it accepts. -/
theorem ahead_iff_run {s : Scanner} (hs : s.Ready) (ts : List Token) :
    s.Ahead ts ↔ s.run.mode = .accepted ∧ s.run.tokens = s.tokens ++ ts := by
  fun_induction run s generalizing ts with
  | case1 s h =>
    have hm : ¬ s.mode.Reads := fun hm => next?_ne_none hs hm h
    cases e : s.mode with
    | accepted =>
      rw [ahead_accepted e]
      simp
    | rejected f => simp [not_ahead_rejected e]
    | _ => exact absurd (by rw [e]; trivial) hm
  | case2 s s' h ih =>
    rw [(step_of_next? h).conserves ts]
    constructor
    · rintro ⟨us, e, ha⟩
      obtain ⟨hm, ht⟩ := (ih ((step_of_next? h).ready) us).1 ha
      exact ⟨hm, ht.trans e.symm⟩
    · rintro ⟨hm, ht⟩
      obtain ⟨us, hu⟩ := s'.tokens_prefix_run
      exact ⟨us, ht.symm.trans hu.symm, (ih ((step_of_next? h).ready) us).2 ⟨hm, hu.symm⟩⟩

end Scanner

/-! ## The tokens of a source -/

theorem tokenize_eq_ok_iff_run {source : Text} {ts : List Token} : tokenize source = .ok ts ↔
    (Scanner.init source).run.mode = .accepted ∧ (Scanner.init source).run.tokens = ts := by
  have hm := Scanner.not_reads_run (Scanner.ready_init source)
  unfold tokenize
  cases e : (Scanner.init source).run.mode with
  | accepted => simp [e]
  | rejected f => simp [e]
  | _ => exact absurd (by rw [e]; trivial) hm

theorem tokenize_eq_ok_iff {source : Text} {ts : List Token} :
    tokenize source = .ok ts ↔ Token.print ts = source ∧ WellFormed ts := by
  have ha := Scanner.ahead_iff_run (Scanner.ready_init source) ts
  rw [wellFormed_iff_follows, tokenize_eq_ok_iff_run]
  exact ha.symm.trans (Scanner.ahead_iff_follows rfl trivial)

instance (ts : List Token) : Decidable (WellFormed ts) :=
  decidable_of_iff (tokenize (Token.print ts) = .ok ts) (tokenize_eq_ok_iff.trans (and_iff_right rfl))

/-- **Reading accepts exactly the grammar and loses nothing.** A source is accepted with the tokens `ts` if and only if
`ts` is well formed and covers the source; so well-formed tokens are recovered from the text that they print, and no two
of them print the same text. -/
theorem tokenize_iff_wellFormed (source : Text) (ts : List Token) :
    (tokenize source = .ok ts ↔ Token.print ts = source ∧ WellFormed ts) ∧
      (WellFormed ts ↔ tokenize (Token.print ts) = .ok ts) ∧ {us | WellFormed us}.InjOn Token.print := by
  refine ⟨tokenize_eq_ok_iff, (tokenize_eq_ok_iff.trans (and_iff_right rfl)).symm, fun us hu vs hv e => ?_⟩
  have hus : tokenize (Token.print us) = .ok us := tokenize_eq_ok_iff.2 ⟨rfl, hu⟩
  have hvs : tokenize (Token.print vs) = .ok vs := tokenize_eq_ok_iff.2 ⟨rfl, hv⟩
  rw [← e, hus] at hvs
  exact Except.ok.inj hvs

/-- A brace in front of a placeholder belongs to it, so it cannot be the text in front. -/
example : ¬ WellFormed (Layout.tokens ⟨['\x7b'], [(⟨['a'], []⟩, [])]⟩) ∧
    WellFormed (Layout.tokens ⟨[], [(⟨['\x7b', 'a'], []⟩, [])]⟩) := by decide +kernel

end PageHarvest
