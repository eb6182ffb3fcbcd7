import PageHarvest.Proofs.Scanning

/-!
# What a scan has read

`Scanner.Path s x s'` says that steps lead from `s` to `s'` and that they read `x`. A scanner looks at one character
beyond those that it reads, and where it is about to read a name it has not looked beyond at all. So a path to a name is
taken whatever the source holds behind it (`Path.facing`), one case aside: a brace that has been read may turn out to be
the first one of a pair.

- `run_of_path`: a scan goes on where a path has led to.
- `Path.pos`: the position behind a path is told by what it reads.
- `Path.facing`: the same path in front of another source.
-/

namespace PageHarvest.Scanner

open Text (size)

variable {s s₁ s' : Scanner} {d x z : Text} {k : Token.Kind} {m m' : Mode}

/-- Steps lead from one state to another, and they read `x`. -/
inductive Path : Scanner → Text → Scanner → Prop
  | refl (s : Scanner) : Path s [] s
  | step {s s₁ s' : Scanner} {d x : Text} : Step s s₁ → s.rest = d ++ s₁.rest → Path s₁ x s' → Path s (d ++ x) s'

/-- A scan goes on where a path has led to. -/
theorem run_of_path (h : Path s x s') : s.run = s'.run := by
  induction h with
  | refl => rfl
  | step hs _ _ ih =>
    rw [run]
    split <;> rename_i hn <;> cases hn.symm.trans (next?_of_step hs)
    exact ih

/-- What a step reads is the front of the source. -/
theorem Step.exists_read (h : Step s s') : ∃ d, s.rest = d ++ s'.rest := by
  cases h with
  | textEnd | opening | nameEnd | emptyName | unclosed | space => exact ⟨[], by simp⟩
  | @textChar c r _ hr | @nameChar _ c r _ hr => exact ⟨[c], hr⟩
  | delimiter _ hr => exact ⟨_, hr⟩

theorem Path.rest_eq (h : Path s x s') : s.rest = x ++ s'.rest := by
  induction h with
  | refl => rfl
  | step _ hd _ ih => rw [hd, ih, List.append_assoc]

/-! ## Positions -/

@[simp] theorem pos_emit (s : Scanner) (kind : Token.Kind) (mode : Mode) : (s.emit kind mode).pos = s.pos := rfl

@[simp] theorem pos_reject (s : Scanner) (fault : Fault) : (s.reject fault).pos = s.pos := rfl

@[simp] theorem pos_emitText (s : Scanner) (mode : Mode) : (s.emitText mode).pos = s.pos := by
  unfold emitText
  split <;> rfl

theorem pos_read (s : Scanner) (c : Char) (rest : Text) : (s.read c rest).pos = s.pos + size [c] := by
  simp [pos, read, lexeme, Nat.add_assoc]

theorem pos_readDelimiter (s : Scanner) (delimiter rest : Text) :
    (s.readDelimiter delimiter rest).pos = s.pos + size delimiter := by
  simp [pos, readDelimiter, lexeme, Nat.add_assoc]

theorem Step.pos (h : Step s s') (hd : s.rest = d ++ s'.rest) : s'.pos = s.pos + size d := by
  cases h with
  | textEnd | opening | nameEnd | emptyName | unclosed | space =>
    have hnil : d = [] := by simpa using hd
    simp [hnil]
  | @textChar c r _ hr | @nameChar _ c r _ hr =>
    obtain rfl : [c] = d := List.append_cancel_right (hr.symm.trans hd)
    exact s.pos_read c r
  | delimiter _ hr =>
    obtain rfl := List.append_cancel_right (hr.symm.trans hd)
    rw [pos_emit, pos_readDelimiter]

/-- The position behind a path. -/
theorem Path.pos (h : Path s x s') : s'.pos = s.pos + size x := by
  induction h with
  | refl => rfl
  | step hs hd _ ih => rw [ih, hs.pos hd, Text.size_append, Nat.add_assoc]

/-! ## What a path to a name must read -/

/-- In front of a delimiter, the only step reads it. -/
theorem Step.of_delimiter (hd : s.mode.delimiter? = some (k, d, m)) (h : Step s s') :
    ∃ r, s.rest = d ++ r ∧ s' = (s.readDelimiter d r).emit k m := by
  have hk := nameKind?_of_delimiter? hd
  cases h with
  | textEnd hm | opening hm | textChar hm => simp [hm, Mode.delimiter?] at hd
  | delimiter hd' hr =>
    cases hd.symm.trans hd'
    exact ⟨_, hr, rfl⟩
  | nameEnd hk' | emptyName hk' | nameChar hk' | unclosed hk' | space hk' => cases hk.symm.trans hk'

theorem delimiter?_ne_nil (h : m.delimiter? = some (k, d, m')) : d ≠ [] := by
  cases m <;> cases h <;> exact List.cons_ne_nil _ _

/-- A step that reads nothing leads to a delimiter, or to the end of the scan. -/
theorem Step.of_rest_eq (h : Step s s') (hr : s.rest = s'.rest) :
    (∃ k d m, s'.mode.delimiter? = some (k, d, m)) ∨ ¬ s'.mode.Reads := by
  cases h with
  | textEnd | emptyName | unclosed | space => exact .inr id
  | opening => exact .inl ⟨_, _, _, by rw [mode_emitText]; rfl⟩
  | nameEnd _ _ hm => exact .inl ⟨_, _, _, hm⟩
  | textChar _ hr' | nameChar _ hr' => simp [hr'] at hr
  | delimiter hd hr' => exact absurd (by simpa [hr'] using hr) (delimiter?_ne_nil hd)

section ToName

variable (hk : s'.mode.nameKind? = some k)
include hk

theorem Path.reads (h : Path s x s') : s.mode.Reads := by
  cases h with
  | refl => exact reads_of_nameKind? hk
  | step hs => exact hs.reads

theorem Path.prefix_of_delimiter {k' : Token.Kind} (hd : s.mode.delimiter? = some (k', d, m)) (h : Path s x s') :
    d <+: x := by
  cases h with
  | refl => cases (nameKind?_of_delimiter? hd).symm.trans hk
  | step hs he =>
    obtain ⟨r, hr, rfl⟩ := hs.of_delimiter hd
    obtain rfl := List.append_cancel_right (hr.symm.trans he)
    exact List.prefix_append _ _

/-- A path to a name that reads nothing leads nowhere. -/
theorem Path.eq_of_nil (h : Path s [] s') : s = s' := by
  generalize hx : [] = x at h
  cases h with
  | refl => rfl
  | step hs hd hp =>
    obtain ⟨rfl, rfl⟩ := List.append_eq_nil_iff.1 hx.symm
    rcases hs.of_rest_eq hd with ⟨_, d, _, hm⟩ | hm
    · have hnil : d = [] := List.prefix_nil.1 (hp.prefix_of_delimiter hk hm)
      exact absurd hnil (delimiter?_ne_nil hm)
    · exact absurd (hp.reads hk) hm

end ToName

/-! ## Another source behind the path -/

/-- The same state in front of another source. -/
def facing (s : Scanner) (rest : Text) : Scanner := { s with rest }

theorem facing_emitText (s : Scanner) (mode : Mode) (rest : Text) :
    (s.emitText mode).facing rest = (s.facing rest).emitText mode := by
  unfold emitText facing
  split <;> rfl

/-- A step in front of another source. What it does not read must come next where a delimiter is to be read, and must
not turn a brace into one of a pair. -/
theorem Step.facing (h : Step s s₁) (hd : s.rest = d ++ s₁.rest) (hm : s₁.mode.Reads) (hz : (s₁.facing z).Ready)
    (hnext : z.head? = s₁.rest.head? ∨ s₁.mode.nameKind? = some k ∧ (s₁.lexeme ≠ [] → z.head? ≠ some '\x7d')) :
    Step (s.facing (d ++ z)) (s₁.facing z) := by
  cases h with
  | textEnd | emptyName | unclosed | space => exact hm.elim
  | opening ht hr =>
    obtain rfl : d = [] := by simpa using hd
    rw [facing_emitText] at hz ⊢
    have hpre := hz _ _ _ (by rw [mode_emitText]; rfl)
    rw [rest_emitText] at hpre
    exact .opening ht hpre
  | @textChar c r ht hr hn =>
    obtain rfl : [c] = d := List.append_cancel_right (hr.symm.trans hd)
    have hhead : z.head? = r.head? := by
      rcases hnext with h | ⟨h, -⟩
      · exact h
      · rw [mode_read, ht] at h
        cases h
    refine .textChar (s := s.facing _) ht rfl ?_
    rwa [Token.opening, pair_prefix_iff, hhead, ← pair_prefix_iff]
  | @delimiter k d' r m hd' hr =>
    obtain rfl : d' = d := List.append_cancel_right (hr.symm.trans hd)
    have hf : (s.facing (d' ++ z)).mode.delimiter? = some (k, d', m) := hd'
    exact .delimiter hf rfl
  | nameEnd hk he hm' hr hl =>
    obtain rfl : d = [] := by simpa using hd
    exact .nameEnd hk he hm' (hz _ _ _ hm') hl
  | @nameChar k c r hk hr hc hn =>
    obtain rfl : [c] = d := List.append_cancel_right (hr.symm.trans hd)
    refine .nameChar (s := s.facing _) hk rfl hc ?_
    rw [Token.closing, pair_prefix_iff] at hn ⊢
    rcases hnext with h | ⟨-, h⟩
    · exact h ▸ hn
    · exact fun hp => h (by simp) hp.2

/-- **A path to a name is taken whatever the source holds behind it**, but no closing brace may come behind a name that
has begun. -/
theorem Path.facing (hk : s'.mode.nameKind? = some k) (hz : s'.lexeme ≠ [] → z.head? ≠ some '\x7d')
    (h : Path s x s') : Path (s.facing (x ++ z)) x (s'.facing z) := by
  induction h with
  | refl => exact .refl _
  | @step s s₁ s' d y hs hd hp ih =>
    have hready : (s₁.facing (y ++ z)).Ready := by
      intro k' d' m hd'
      have hpre : d' <+: y := Path.prefix_of_delimiter (s := s₁) hk hd' hp
      exact hpre.trans (List.prefix_append _ _)
    have hnext : (y ++ z).head? = s₁.rest.head? ∨
        s₁.mode.nameKind? = some k ∧ (s₁.lexeme ≠ [] → (y ++ z).head? ≠ some '\x7d') := by
      cases y with
      | nil =>
        cases hp.eq_of_nil hk
        exact .inr ⟨hk, hz⟩
      | cons c y =>
        rw [hp.rest_eq]
        exact .inl rfl
    rw [List.append_assoc]
    exact .step (hs.facing hd (hp.reads hk) hready hnext) rfl (ih hk hz)

end PageHarvest.Scanner
