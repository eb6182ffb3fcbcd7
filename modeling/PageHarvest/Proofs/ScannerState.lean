import PageHarvest.Proofs.Boundary
import PageHarvest.Proofs.Path
import PageHarvest.Proofs.Steps

/-!
# The states of a scan

What holds in every state that a scan comes to. The tokens emitted so far, the lexeme and what is left
make up the source (`Scanner.Scanned`), so the scan stays inside the source and between its characters. A mode is entered
with an empty lexeme, and a delimiter mode in front of its delimiter (`Scanner.Entered`).

- `Step.scanned`: what a step adds to the tokens.
- `Step.lexeme_eq_nil`: a mode is entered with an empty lexeme.
- `exists_steps?_run`: a scan ends, within a number of steps known beforehand.
- `scan_exact`: all of it together, and which tokens a scan can emit.
-/

namespace PageHarvest

open Text (size)

/-- A token that stands for a part of the source. -/
structure Token.OfSource (t : Token) : Prop where
  end_ne : t.kind ≠ .endOfTemplate
  error_ne : t.kind ≠ .error
  literal_ne : t.literal ≠ []

/-- Tokens that stand for parts of the source are no more than its characters. -/
theorem Token.length_le_length_print {ts : List Token} (h : ∀ t ∈ ts, t.OfSource) : ts.length ≤ (print ts).length := by
  induction ts with
  | nil => exact Nat.le_refl 0
  | cons t ts ih =>
    obtain ⟨ht, hts⟩ := List.forall_mem_cons.1 h
    have hpos := List.length_pos_iff.2 ht.literal_ne
    have hle := ih hts
    rw [List.length_cons, print_cons, List.length_append]
    omega

namespace Scanner

variable {source : Text} {s s' : Scanner} {ts : List Token}

/-! ## What has been scanned -/

/-- The token that has ended the scan, if it has ended. -/
def Mode.ending : Mode → List Token
  | .accepted => [Token.final]
  | .rejected fault => [⟨.error, fault.reason⟩]
  | _ => []

theorem ending_of_reads {m : Mode} (h : m.Reads) : m.ending = [] := by
  cases m <;> first | rfl | exact h.elim

/-- The tokens `ts` have been emitted for the source up to the lexeme. -/
structure Scanned (source : Text) (s : Scanner) (ts : List Token) : Prop where
  tokens : s.tokens = ts ++ s.mode.ending
  ofSource : ∀ t ∈ ts, t.OfSource
  source : source = Token.print ts ++ (s.lexeme ++ s.rest)
  start : s.start = size (Token.print ts)

theorem scanned_init (source : Text) : (init source).Scanned source [] := ⟨rfl, nofun, rfl, rfl⟩

theorem start_emit (s : Scanner) (kind : Token.Kind) (mode : Mode) : (s.emit kind mode).start = s.pos := rfl

theorem start_emitText (s : Scanner) (mode : Mode) : (s.emitText mode).start = s.pos := by
  unfold emitText
  split
  · rename_i h
    simp [pos, lexeme, h]
  · rfl

namespace Scanned

variable (h : s.Scanned source ts)
include h

theorem pos_eq : s.pos = size (Token.print ts) + size s.lexeme := by rw [pos, h.start]

/-- The lexeme becomes a token. -/
theorem emit {k : Token.Kind} {m : Mode} (hs : s.mode.Reads) (hm : m.Reads) (ht : Token.OfSource ⟨k, s.lexeme⟩) :
    (s.emit k m).Scanned source (ts ++ [⟨k, s.lexeme⟩]) where
  tokens := by simp [h.tokens, ending_of_reads hs, ending_of_reads hm]
  ofSource := List.forall_mem_append.2 ⟨h.ofSource, List.forall_mem_singleton.2 ht⟩
  source := by simpa using h.source
  start := by simpa [start_emit] using h.pos_eq

/-- The lexeme becomes a text. -/
theorem emitText {m : Mode} (hs : s.mode.Reads) (hm : m.Reads) :
    (s.emitText m).Scanned source (ts ++ Token.ofText s.lexeme) where
  tokens := by simp [h.tokens, ending_of_reads hs, ending_of_reads hm]
  ofSource := by
    refine List.forall_mem_append.2 ⟨h.ofSource, fun t ht => ?_⟩
    obtain ⟨hne, rfl⟩ := Token.mem_ofText.1 ht
    exact ⟨nofun, nofun, hne⟩
  source := by simpa using h.source
  start := by rw [start_emitText, h.pos_eq, Token.print_append, Token.print_ofText, Text.size_append]

theorem read {c : Char} {r : Text} (hr : s.rest = c :: r) : (s.read c r).Scanned source ts where
  tokens := h.tokens
  ofSource := h.ofSource
  source := by simpa [hr] using h.source
  start := h.start

theorem readDelimiter {d r : Text} (hr : s.rest = d ++ r) : (s.readDelimiter d r).Scanned source ts where
  tokens := h.tokens
  ofSource := h.ofSource
  source := by simpa [hr] using h.source
  start := h.start

theorem reject (hs : s.mode.Reads) (f : Fault) : (s.reject f).Scanned source ts where
  tokens := by rw [tokens_reject, h.tokens, ending_of_reads hs, List.append_nil]; rfl
  ofSource := h.ofSource
  source := h.source
  start := h.start

/-- The end of the template is emitted where nothing is left to be emitted. -/
theorem finish (hs : s.mode.Reads) (hl : s.lexeme = []) :
    (s.emit .endOfTemplate .accepted).Scanned source ts where
  tokens := by rw [tokens_emit, h.tokens, ending_of_reads hs, List.append_nil, hl]; rfl
  ofSource := h.ofSource
  source := by simpa [hl] using h.source
  start := by simpa [start_emit, hl] using h.pos_eq

end Scanned

theorem ofSource_of_delimiter? {m m' : Mode} {k : Token.Kind} {d : Text} (h : m.delimiter? = some (k, d, m')) (x : Text) :
    Token.OfSource ⟨k, x ++ d⟩ := by
  cases m <;> cases h <;> exact ⟨nofun, nofun, List.append_ne_nil_of_right_ne_nil _ (List.cons_ne_nil _ _)⟩

theorem ofSource_of_nameKind? {m : Mode} {k : Token.Kind} (h : m.nameKind? = some k) {n : Text} (hn : n ≠ []) :
    Token.OfSource ⟨k, n⟩ := by
  cases m <;> cases h <;> exact ⟨nofun, nofun, hn⟩

/-- **What a step adds to the tokens.** The source is made up of them, the lexeme and what is left, as before. -/
theorem Step.scanned (hs : s.Scanned source ts) (h : Step s s') : ∃ us, s'.Scanned source us := by
  have hreads := h.reads
  cases h with
  | textEnd =>
    have hm : (s.emitText .text).mode.Reads := by rw [mode_emitText]; trivial
    exact ⟨_, (hs.emitText hreads (m := .text) trivial).finish hm (lexeme_emitText s .text)⟩
  | opening => exact ⟨_, hs.emitText hreads trivial⟩
  | textChar _ hr | nameChar _ hr => exact ⟨_, hs.read hr⟩
  | delimiter hd hr =>
    have hs := hs.readDelimiter hr
    refine ⟨_, hs.emit hreads (reads_behind_delimiter hd) ?_⟩
    rw [lexeme_readDelimiter]
    exact ofSource_of_delimiter? hd _
  | nameEnd hk he _ _ hl => exact ⟨_, hs.emit hreads he.reads (ofSource_of_nameKind? hk hl)⟩
  | emptyName | unclosed | space => exact ⟨_, hs.reject hreads _⟩

theorem exists_scanned_of_steps? {n : Nat} (h : steps? next? n (init source) = some s) : ∃ ts, s.Scanned source ts :=
  of_steps? (P := fun s => ∃ ts, s.Scanned source ts) (fun _ _ ⟨_, hs⟩ h => (step_of_next? h).scanned hs) ⟨[], scanned_init source⟩ h

theorem ready_of_steps? {n : Nat} (h : steps? next? n (init source) = some s) : s.Ready :=
  of_steps? (fun _ _ _ h => (step_of_next? h).ready) (ready_init source) h

/-- **Where a scan stands in its source.** The lexeme begins and ends inside the source and between its characters, what is
left stands behind it, and what stands in front of it is what the tokens have been emitted for. -/
structure Placed (source : Text) (s : Scanner) : Prop where
  start_le : s.start ≤ s.pos
  pos_le : s.pos ≤ size source
  start_boundary : source.IsBoundary s.start
  pos_boundary : source.IsBoundary s.pos
  rest : source.RestAt s.pos s.rest
  tokens : ∃ ts, s.tokens = ts ++ s.mode.ending ∧ Token.print ts <+: source ∧ size (Token.print ts) = s.start

theorem Scanned.placed (h : s.Scanned source ts) : s.Placed source := by
  have hstart : source.RestAt s.start (s.lexeme ++ s.rest) := ⟨_, h.source, h.start.symm⟩
  have hpos : source.RestAt s.pos s.rest :=
    ⟨Token.print ts ++ s.lexeme, by rw [List.append_assoc, ← h.source], by rw [Text.size_append, h.pos_eq]⟩
  exact ⟨Nat.le_add_right _ _, hpos.le_size, hstart.isBoundary, hpos.isBoundary, hpos,
    ts, h.tokens, ⟨_, h.source.symm⟩, h.start.symm⟩

/-! ## Entering a mode -/

/-- The scan enters the mode of a state: it begins there, or a step into it changes the mode. -/
inductive Entered (source : Text) : Scanner → Prop
  | init : Entered source (init source)
  | step {n : Nat} {s s' : Scanner} : steps? next? n (Scanner.init source) = some s → s.next? = some s' → s'.mode ≠ s.mode →
      Entered source s'

/-- A step that changes the mode leaves no lexeme, unless it ends the scan. -/
theorem Step.lexeme_eq_nil (h : Step s s') (hne : s'.mode ≠ s.mode) (hm : s'.mode.Reads) : s'.lexeme = [] := by
  cases h with
  | textEnd | delimiter | nameEnd => rfl
  | opening => exact lexeme_emitText s .leftDelimiter
  | textChar | nameChar => exact absurd rfl hne
  | emptyName | unclosed | space => exact hm.elim

theorem Entered.lexeme_eq_nil (h : Entered source s) (hm : s.mode.Reads) : s.lexeme = [] := by
  cases h with
  | init => rfl
  | step _ hn hne => exact (step_of_next? hn).lexeme_eq_nil hne hm

theorem Entered.ready (h : Entered source s) : s.Ready := by
  cases h with
  | init => exact ready_init source
  | step _ hn => exact (step_of_next? hn).ready

/-! ## The end of a scan -/

theorem next?_run (s : Scanner) : s.run.next? = none := by
  fun_induction run s with
  | case1 s h => exact h
  | case2 s s' h ih => exact ih

/-- A scan comes to its end, and takes no more steps than its weight. -/
theorem exists_steps?_run (s : Scanner) : ∃ n ≤ s.weight, steps? next? n s = some s.run := by
  fun_induction run s with
  | case1 s h => exact ⟨0, Nat.zero_le _, rfl⟩
  | case2 s s' h ih =>
    obtain ⟨n, hle, hn⟩ := ih
    have hlt := weight_lt_of_next? h
    refine ⟨n + 1, by omega, ?_⟩
    rw [steps?, h]
    exact hn

theorem ending_of_not_reads {m : Mode} (h : ¬ m.Reads) :
    ∃ x, m.ending = [x] ∧ (x.kind = .endOfTemplate ∨ x.kind = .error) := by
  cases m with
  | accepted => exact ⟨_, rfl, .inl rfl⟩
  | rejected => exact ⟨_, rfl, .inr rfl⟩
  | _ => exact absurd trivial h

/-- The tokens of a source: tokens that stand for parts of it, and one that ends the scan. -/
theorem exists_lex_eq (source : Text) : ∃ ts x, lex source = ts ++ [x] ∧ (x.kind = .endOfTemplate ∨ x.kind = .error) ∧
    (∀ t ∈ ts, t.OfSource) ∧ Token.print ts <+: source := by
  obtain ⟨n, -, hn⟩ := exists_steps?_run (init source)
  obtain ⟨ts, hs⟩ := exists_scanned_of_steps? hn
  obtain ⟨x, hx, hk⟩ := ending_of_not_reads (not_reads_run (ready_init source))
  exact ⟨ts, x, by rw [lex, hs.tokens, hx], hk, hs.ofSource, ⟨_, hs.source.symm⟩⟩

theorem length_lex_le (source : Text) : (lex source).length ≤ size source + 1 := by
  obtain ⟨ts, x, hlex, -, hts, hpre⟩ := exists_lex_eq source
  have hprint := Token.length_le_length_print hts
  have hsource := hpre.length_le
  have hsize := Text.length_le_size source
  rw [hlex, List.length_append, List.length_singleton]
  omega

end Scanner

open Scanner in
/-- **Where a scan is, and that it ends.** In every state that it comes to, the scan stands inside the source and between its
characters, the tokens cover what lies behind it, and it goes on unless it has ended. Where it enters a mode the lexeme is
empty, and the delimiter of a delimiter mode comes next. After no more than two steps for each character and one, it has
come to its end. It emits one token that ends it, the last one, and no others but those that stand for a part of the
source, which makes no more tokens than bytes and one. -/
theorem scan_exact (source : Text) :
    (∀ n s, steps? next? n (init source) = some s → s.Placed source ∧ (s.mode.Reads → s.next? ≠ none)) ∧
    (∀ s, Entered source s → s.mode.Reads → s.start = s.pos ∧
      (s.mode = .leftDelimiter → Token.opening <+: s.rest) ∧ (s.mode = .rightDelimiter → Token.closing <+: s.rest) ∧
      (s.mode = .pipe → Token.bar <+: s.rest)) ∧
    (∃ n ≤ 2 * source.length + 1, ∃ s, steps? next? n (init source) = some s ∧ s.next? = none ∧ ¬ s.mode.Reads ∧
      s.tokens = lex source) ∧
    (∃ ts x, lex source = ts ++ [x] ∧ (x.kind = .endOfTemplate ∨ x.kind = .error) ∧
      ∀ t ∈ ts, t.kind ≠ .endOfTemplate ∧ t.kind ≠ .error ∧ t.literal ≠ []) ∧
    (lex source).length ≤ size source + 1 := by
  refine ⟨fun n s hs => ?_, fun s hs hm => ?_, ?_, ?_, length_lex_le source⟩
  · obtain ⟨ts, hts⟩ := exists_scanned_of_steps? hs
    exact ⟨hts.placed, next?_ne_none (ready_of_steps? hs)⟩
  · have hready := hs.ready
    refine ⟨by simp [pos, hs.lexeme_eq_nil hm], fun e => ?_, fun e => ?_, fun e => ?_⟩ <;>
      exact hready _ _ _ (by rw [e]; rfl)
  · obtain ⟨n, hle, hn⟩ := exists_steps?_run (init source)
    exact ⟨n, hle, _, hn, next?_run _, not_reads_run (ready_init source), rfl⟩
  · obtain ⟨ts, x, hlex, hx, hts, -⟩ := exists_lex_eq source
    exact ⟨ts, x, hlex, hx, fun t ht => ⟨(hts t ht).end_ne, (hts t ht).error_ne, (hts t ht).literal_ne⟩⟩

open Scanner in
/-- The delimiters of a placeholder, each where the scan enters its mode. The name takes two bytes. -/
theorem scan_exact_delimiters :
    ∃ s₁ s₂ s₃, (Entered "\x7b\x7bé|b\x7d\x7d".toList s₁ ∧ s₁.mode = .leftDelimiter) ∧
      (Entered "\x7b\x7bé|b\x7d\x7d".toList s₂ ∧ s₂.mode = .pipe) ∧
      (Entered "\x7b\x7bé|b\x7d\x7d".toList s₃ ∧ s₃.mode = .rightDelimiter) ∧
      (s₁.start = s₁.pos ∧ Token.opening <+: s₁.rest) ∧ (s₂.start = s₂.pos ∧ s₂.pos = 4 ∧ Token.bar <+: s₂.rest) ∧
      (s₃.start = s₃.pos ∧ Token.closing <+: s₃.rest) ∧
      ∃ s, steps? next? 3 (init "\x7b\x7bé|b\x7d\x7d".toList) = some s ∧ s.Placed "\x7b\x7bé|b\x7d\x7d".toList ∧
        s.next? ≠ none := by
  obtain ⟨hplaced, hentered, -⟩ := scan_exact "\x7b\x7bé|b\x7d\x7d".toList
  have h₂ : steps? next? 3 (init "\x7b\x7bé|b\x7d\x7d".toList) =
      some ⟨.variableName, 2, ['é'], "|b\x7d\x7d".toList, [⟨.leftDelimiter, Token.opening⟩]⟩ := by decide +kernel
  have h₃ : steps? next? 6 (init "\x7b\x7bé|b\x7d\x7d".toList) = some ⟨.filterName, 5, ['b'], "\x7d\x7d".toList,
      [⟨.pipe, Token.bar⟩, ⟨.variableName, ['é']⟩, ⟨.leftDelimiter, Token.opening⟩]⟩ := by decide +kernel
  have he₁ : Entered "\x7b\x7bé|b\x7d\x7d".toList _ := .step (n := 0) rfl rfl (by decide)
  have he₂ : Entered "\x7b\x7bé|b\x7d\x7d".toList _ := .step h₂ rfl (by decide)
  have he₃ : Entered "\x7b\x7bé|b\x7d\x7d".toList _ := .step h₃ rfl (by decide)
  obtain ⟨hpos₁, hopening, -⟩ := hentered _ he₁ trivial
  obtain ⟨hpos₂, -, -, hbar⟩ := hentered _ he₂ trivial
  obtain ⟨hpos₃, -, hclosing, -⟩ := hentered _ he₃ trivial
  obtain ⟨hplace, hgo⟩ := hplaced 3 _ h₂
  exact ⟨_, _, _, ⟨he₁, rfl⟩, ⟨he₂, rfl⟩, ⟨he₃, rfl⟩, ⟨hpos₁, hopening rfl⟩, ⟨hpos₂, rfl, hbar rfl⟩,
    ⟨hpos₃, hclosing rfl⟩, _, h₂, hplace, hgo trivial⟩

end PageHarvest
