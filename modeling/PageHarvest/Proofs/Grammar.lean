import PageHarvest.Template.Scanner
import Mathlib.Data.List.Chain

/-!
# The grammar of definitions

A `Layout` is a definition seen as literal text with placeholders in it. `WellFormed` says which token lists a definition
can have: the tokens of a layout, in which no delimiter shows up where none is meant.

`Follows m ts` says the same from left to right: `ts` may stand in front of a scanner in mode `m`. Where a text or a
name ends is told by `Clear`, which looks at each place of it and at what stands behind.

- `clear_pair_iff`: a pair of braces does not begin in a text if the text neither holds it nor runs into it.
- `wellFormed_iff_follows`: the two descriptions agree.
-/

namespace PageHarvest

open Text (isSpace)

/-! ## Layouts -/

/-- A placeholder: its name, and the names of its filters. -/
structure Placeholder where
  name : Text
  filters : List Text
  deriving DecidableEq, Repr

/-- Literal text, which may be empty, and placeholders with the literal text behind each of them. -/
structure Layout where
  lead : Text
  parts : List (Placeholder × Text)
  deriving DecidableEq, Repr

namespace Token

/-- The end of a template. -/
def final : Token := ⟨.endOfTemplate, []⟩

/-- The token of a literal text; empty text has none. -/
def ofText (t : Text) : List Token := if t = [] then [] else [⟨.text, t⟩]

/-- The tokens of the filters of a placeholder. -/
def ofFilters (fs : List Text) : List Token := fs.flatMap fun f => [⟨.pipe, bar⟩, ⟨.filterName, f⟩]

/-- The tokens of placeholders and of the literal text behind each of them, up to the end of the template. -/
def ofParts : List (Placeholder × Text) → List Token
  | [] => [final]
  | (p, t) :: ps =>
    ⟨.leftDelimiter, opening⟩ :: ⟨.variableName, p.name⟩ ::
      (ofFilters p.filters ++ ⟨.rightDelimiter, closing⟩ :: (ofText t ++ ofParts ps))

@[simp] theorem ofText_nil : ofText [] = [] := rfl

theorem ofText_of_ne {t : Text} (h : t ≠ []) : ofText t = [⟨.text, t⟩] := if_neg h

@[simp] theorem print_ofText (t : Text) : print (ofText t) = t := by
  by_cases h : t = [] <;> simp [ofText, h]

@[simp] theorem ofFilters_nil : ofFilters [] = [] := rfl

@[simp] theorem ofFilters_cons (f : Text) (fs : List Text) :
    ofFilters (f :: fs) = ⟨.pipe, bar⟩ :: ⟨.filterName, f⟩ :: ofFilters fs := rfl

@[simp] theorem literal_final : final.literal = [] := rfl

theorem mem_ofText {t : Token} {x : Text} : t ∈ ofText x ↔ x ≠ [] ∧ t = ⟨.text, x⟩ := by
  by_cases h : x = [] <;> simp [ofText, h]

/-- Does the token carry a name? -/
def Named (t : Token) : Prop := t.kind = .variableName ∨ t.kind = .filterName

end Token

/-- The tokens of a layout. -/
def Layout.tokens (l : Layout) : List Token := Token.ofText l.lead ++ Token.ofParts l.parts

/-- The names that placeholders and filters can have. -/
structure IsName (n : Text) : Prop where
  ne_nil : n ≠ []
  space : ∀ c ∈ n, isSpace c = false
  bar : '|' ∉ n
  closing : ¬ Token.closing <:+: n

/-- A token that may stand in front of another one: neither a text nor a name runs into the delimiter behind it. -/
def Token.Apart (t u : Token) : Prop :=
  (t.kind = .text → u.kind = .leftDelimiter → t.literal.getLast? ≠ some '\x7b') ∧
    (t.Named → u.kind = .rightDelimiter → t.literal.getLast? ≠ some '\x7d')

/-- Tokens that can be told apart: no delimiter shows up inside a text or a name or where one of them ends. -/
structure Legible (ts : List Token) : Prop where
  text : ∀ t ∈ ts, t.kind = .text → t.literal ≠ [] ∧ ¬ Token.opening <:+: t.literal
  name : ∀ t ∈ ts, t.Named → IsName t.literal
  apart : ts.IsChain Token.Apart

/-- **The token lists of definitions.** -/
structure WellFormed (ts : List Token) : Prop extends Legible ts where
  layout : ∃ l : Layout, ts = l.tokens

/-! ## Where a delimiter may begin -/

/-- No `d` begins in the text when `after` stands behind it. -/
def Clear (d : Text) : Text → Text → Prop
  | [], _ => True
  | c :: t, after => ¬ d <+: c :: (t ++ after) ∧ Clear d t after

@[simp] theorem clear_nil (d after : Text) : Clear d [] after := trivial

theorem clear_cons_iff {d t after : Text} {c : Char} :
    Clear d (c :: t) after ↔ ¬ d <+: c :: (t ++ after) ∧ Clear d t after := Iff.rfl

theorem pair_prefix_iff {x c : Char} {t : Text} : [x, x] <+: c :: t ↔ c = x ∧ t.head? = some x := by
  cases t with
  | nil => simp
  | cons c' t =>
    simp only [List.cons_prefix_cons, List.nil_prefix, and_true, List.head?_cons, Option.some.injEq]
    exact and_congr eq_comm eq_comm

/-- A pair begins nowhere in a text that does not hold it and does not run into it. -/
theorem clear_pair_iff {x : Char} {t after : Text} :
    Clear [x, x] t after ↔ ¬ [x, x] <:+: t ∧ (t.getLast? = some x → after.head? ≠ some x) := by
  induction t with
  | nil => simp
  | cons c t ih =>
    rw [clear_cons_iff, ih, List.infix_cons_iff, pair_prefix_iff, pair_prefix_iff]
    cases t with
    | nil => simp
    | cons c' t => simp [List.getLast?_cons_cons]; tauto

/-! ## The grammar from left to right -/

/-- The kind of the names that a mode reads. -/
def Scanner.Mode.nameKind? : Scanner.Mode → Option Token.Kind
  | .variableName => some .variableName
  | .filterName => some .filterName
  | _ => none

/-- The delimiter that a mode reads: the kind of its token, its text, and the mode behind it. -/
def Scanner.Mode.delimiter? : Scanner.Mode → Option (Token.Kind × Text × Scanner.Mode)
  | .leftDelimiter => some (.leftDelimiter, Token.opening, .variableName)
  | .pipe => some (.pipe, Token.bar, .filterName)
  | .rightDelimiter => some (.rightDelimiter, Token.closing, .text)
  | _ => none

/-- The characters that may stand anywhere in a name. -/
def NameChar (c : Char) : Prop := c ≠ '|' ∧ isSpace c = false

/-- The tokens that can be read from a mode on. -/
inductive Follows : Scanner.Mode → List Token → Prop
  | ended {t : Text} : Clear Token.opening t [] → Follows .text (Token.ofText t ++ [Token.final])
  | opened {t : Text} {ts : List Token} : Clear Token.opening t (Token.print ts) → Follows .leftDelimiter ts →
      Follows .text (Token.ofText t ++ ts)
  | delimiter {m m' : Scanner.Mode} {k : Token.Kind} {d : Text} {ts : List Token} : m.delimiter? = some (k, d, m') →
      Follows m' ts → Follows m (⟨k, d⟩ :: ts)
  | piped {m : Scanner.Mode} {k : Token.Kind} {n : Text} {ts : List Token} : m.nameKind? = some k → n ≠ [] →
      (∀ c ∈ n, NameChar c) → Clear Token.closing n (Token.print ts) → Follows .pipe ts → Follows m (⟨k, n⟩ :: ts)
  | closed {m : Scanner.Mode} {k : Token.Kind} {n : Text} {ts : List Token} : m.nameKind? = some k → n ≠ [] →
      (∀ c ∈ n, NameChar c) → Clear Token.closing n (Token.print ts) → Follows .rightDelimiter ts →
      Follows m (⟨k, n⟩ :: ts)

theorem follows_text_iff {ts : List Token} : Follows .text ts ↔ ∃ t us, ts = Token.ofText t ++ us ∧
    Clear Token.opening t (Token.print us) ∧ (us = [Token.final] ∨ Follows .leftDelimiter us) := by
  constructor
  · intro h
    cases h with
    | ended hc => exact ⟨_, _, rfl, hc, .inl rfl⟩
    | opened hc hf => exact ⟨_, _, rfl, hc, .inr hf⟩
    | delimiter hd => cases hd
    | piped hm => cases hm
    | closed hm => cases hm
  · rintro ⟨t, us, rfl, hc, rfl | hf⟩
    · exact .ended hc
    · exact .opened hc hf

theorem nameKind?_of_delimiter? {m : Scanner.Mode} {d : Token.Kind × Text × Scanner.Mode}
    (h : m.delimiter? = some d) : m.nameKind? = none := by
  cases m <;> first | rfl | cases h

theorem follows_delimiter_iff {m m' : Scanner.Mode} {k : Token.Kind} {d : Text} (hd : m.delimiter? = some (k, d, m'))
    {ts : List Token} : Follows m ts ↔ ∃ us, ts = ⟨k, d⟩ :: us ∧ Follows m' us := by
  have hm := nameKind?_of_delimiter? hd
  constructor
  · intro h
    cases h with
    | ended => cases hd
    | opened => cases hd
    | delimiter hd' hf =>
      cases hd.symm.trans hd'
      exact ⟨_, rfl, hf⟩
    | piped hk => cases hm.symm.trans hk
    | closed hk => cases hm.symm.trans hk
  · rintro ⟨us, rfl, hf⟩
    exact .delimiter hd hf

theorem follows_name_iff {m : Scanner.Mode} {k : Token.Kind} (hm : m.nameKind? = some k) {ts : List Token} :
    Follows m ts ↔ ∃ n us, ts = ⟨k, n⟩ :: us ∧ n ≠ [] ∧ (∀ c ∈ n, NameChar c) ∧
      Clear Token.closing n (Token.print us) ∧ (Follows .pipe us ∨ Follows .rightDelimiter us) := by
  constructor
  · intro h
    cases h with
    | piped hk hn hc hd hf =>
      cases hm.symm.trans hk
      exact ⟨_, _, rfl, hn, hc, hd, .inl hf⟩
    | closed hk hn hc hd hf =>
      cases hm.symm.trans hk
      exact ⟨_, _, rfl, hn, hc, hd, .inr hf⟩
    | delimiter hd => cases (nameKind?_of_delimiter? hd).symm.trans hm
    | _ => cases hm
  · rintro ⟨n, us, rfl, hn, hc, hd, hf | hf⟩
    · exact .piped hm hn hc hd hf
    · exact .closed hm hn hc hd hf

/-! ## The two descriptions agree -/

theorem Legible.tail {t : Token} {ts : List Token} (h : Legible (t :: ts)) : Legible ts where
  text u hu := h.text u (List.mem_cons_of_mem _ hu)
  name u hu := h.name u (List.mem_cons_of_mem _ hu)
  apart := h.apart.tail

theorem Legible.of_ofText_append {t : Text} {ts : List Token} (h : Legible (Token.ofText t ++ ts)) : Legible ts := by
  by_cases ht : t = []
  · simpa [ht] using h
  · rw [Token.ofText_of_ne ht] at h
    exact h.tail

theorem Legible.of_ofFilters_append {t : Token} {us : List Token} : ∀ {fs : List Text},
    Legible (t :: (Token.ofFilters fs ++ us)) → Legible us
  | [], h => h.tail
  | _ :: _, h => h.tail.tail.of_ofFilters_append

theorem Legible.cons {t u : Token} {ts : List Token} (h : Legible (u :: ts))
    (text : t.kind = .text → t.literal ≠ [] ∧ ¬ Token.opening <:+: t.literal) (name : t.Named → IsName t.literal)
    (apart : t.Apart u) : Legible (t :: u :: ts) where
  text v hv := by
    rcases List.mem_cons.1 hv with rfl | hv
    · exact text
    · exact h.text v hv
  name v hv := by
    rcases List.mem_cons.1 hv with rfl | hv
    · exact name
    · exact h.name v hv
  apart := List.isChain_cons_cons.2 ⟨apart, h.apart⟩

/-- A token that is neither a text nor a name may stand in front of anything. -/
theorem Legible.cons_delimiter {t : Token} {ts : List Token} (h : Legible ts) (ht : t.kind ≠ .text)
    (hn : ¬ t.Named) : Legible (t :: ts) := by
  cases ts with
  | nil => exact ⟨by simp [ht], by simp [hn], .singleton _⟩
  | cons u ts =>
    exact h.cons (fun e => absurd e ht) (fun e => absurd e hn) ⟨fun e => absurd e ht, fun e => absurd e hn⟩

/-- No placeholder opens inside the text of legible tokens. -/
theorem Legible.clear_opening {t : Text} {ps : List (Placeholder × Text)}
    (h : Legible (Token.ofText t ++ Token.ofParts ps)) : Clear Token.opening t (Token.print (Token.ofParts ps)) := by
  by_cases ht : t = []
  · simp [ht]
  rw [Token.ofText_of_ne ht] at h
  refine clear_pair_iff.2 ⟨(h.text _ List.mem_cons_self rfl).2, fun hl => ?_⟩
  cases ps with
  | nil => simp [Token.ofParts]
  | cons p ps => exact absurd hl ((List.isChain_cons_cons.1 h.apart).1.1 rfl rfl)

/-- No placeholder closes inside a name of legible tokens. -/
theorem Legible.clear_closing {k : Token.Kind} {n : Text} {u : Token} {us : List Token}
    (h : Legible (⟨k, n⟩ :: u :: us)) (hk : Token.Named ⟨k, n⟩)
    (hu : u = ⟨.pipe, Token.bar⟩ ∨ u = ⟨.rightDelimiter, Token.closing⟩) :
    Clear Token.closing n (Token.print (u :: us)) := by
  refine clear_pair_iff.2 ⟨(h.name _ List.mem_cons_self hk).closing, fun hl => ?_⟩
  rcases hu with rfl | rfl
  · simp [Token.bar]
  · exact absurd hl ((List.isChain_cons_cons.1 h.apart).1.2 hk rfl)

theorem IsName.nameChar {n : Text} (h : IsName n) (c : Char) (hc : c ∈ n) : NameChar c :=
  ⟨fun e => h.bar (e ▸ hc), h.space c hc⟩

theorem named_of_nameKind? {m : Scanner.Mode} {k : Token.Kind} {n : Text} (h : m.nameKind? = some k) :
    Token.Named ⟨k, n⟩ := by
  cases m <;> simp [Scanner.Mode.nameKind?] at h <;> subst h <;> simp [Token.Named]

/-- A name and the filters behind it can be read if what stands behind the placeholder can. -/
theorem follows_name {us : List Token} (hu : Follows .rightDelimiter (⟨.rightDelimiter, Token.closing⟩ :: us))
    (fs : List Text) {m : Scanner.Mode} {k : Token.Kind} {n : Text} (hm : m.nameKind? = some k)
    (h : Legible (⟨k, n⟩ :: (Token.ofFilters fs ++ ⟨.rightDelimiter, Token.closing⟩ :: us))) :
    Follows m (⟨k, n⟩ :: (Token.ofFilters fs ++ ⟨.rightDelimiter, Token.closing⟩ :: us)) := by
  have hk : Token.Named ⟨k, n⟩ := named_of_nameKind? hm
  have hn := h.name _ List.mem_cons_self hk
  induction fs generalizing m k n with
  | nil => exact .closed hm hn.ne_nil hn.nameChar (h.clear_closing hk (.inr rfl)) hu
  | cons f fs ih =>
    have hf : Token.Named ⟨.filterName, f⟩ := .inr rfl
    have ht := h.tail.tail
    refine .piped hm hn.ne_nil hn.nameChar (h.clear_closing hk (.inl rfl)) (.delimiter rfl ?_)
    exact ih rfl ht hf (ht.name _ List.mem_cons_self hf)

/-- Literal text and the placeholders behind it can be read if they are legible. -/
theorem follows_text (ps : List (Placeholder × Text)) {t : Text} (h : Legible (Token.ofText t ++ Token.ofParts ps)) :
    Follows .text (Token.ofText t ++ Token.ofParts ps) := by
  induction ps generalizing t with
  | nil => exact .ended h.clear_opening
  | cons p ps ih =>
    have hp := h.of_ofText_append
    refine .opened h.clear_opening (.delimiter rfl (follows_name (.delimiter rfl (ih ?_)) _ rfl hp.tail))
    exact hp.tail.of_ofFilters_append.tail

/-- Literal text in which no placeholder opens, in front of legible tokens. -/
theorem Legible.ofText_append {t : Text} {u : Token} {us : List Token} (h : Legible (u :: us))
    (hc : Clear Token.opening t (Token.print (u :: us)))
    (hu : u.kind = .leftDelimiter → u.literal = Token.opening) : Legible (Token.ofText t ++ u :: us) := by
  by_cases ht : t = []
  · simpa [ht] using h
  rw [Token.ofText_of_ne ht]
  obtain ⟨hi, hl⟩ := clear_pair_iff.1 hc
  refine h.cons (fun _ => ⟨ht, hi⟩) (fun e => by simp [Token.Named] at e) ⟨fun _ hk e => ?_, fun e => ?_⟩
  · exact hl e (by simp [hu hk, Token.opening])
  · simp [Token.Named] at e

/-- A name in which no placeholder closes, in front of legible tokens. -/
theorem Legible.cons_name {k : Token.Kind} {n : Text} {u : Token} {us : List Token} (h : Legible (u :: us))
    (hk : Token.Named ⟨k, n⟩) (hn : n ≠ []) (hnc : ∀ c ∈ n, NameChar c)
    (hc : Clear Token.closing n (Token.print (u :: us)))
    (hu : u.kind = .rightDelimiter → u.literal = Token.closing) : Legible (⟨k, n⟩ :: u :: us) := by
  obtain ⟨hi, hl⟩ := clear_pair_iff.1 hc
  have ht : k ≠ .text := by rintro rfl; simp [Token.Named] at hk
  refine h.cons (fun e => absurd e ht) (fun _ => ⟨hn, fun c hc => (hnc c hc).2, fun hb => (hnc _ hb).1 rfl, hi⟩)
    ⟨fun e => absurd e ht, fun _ hr e => hl e (by simp [hu hr, Token.closing])⟩

theorem Follows.legible {m : Scanner.Mode} {ts : List Token} (h : Follows m ts) : Legible ts := by
  induction h with
  | ended hc =>
    have final : Legible [Token.final] := ⟨by simp [Token.final], by simp [Token.final, Token.Named], .singleton _⟩
    exact final.ofText_append hc nofun
  | opened hc hf ih =>
    obtain ⟨us, rfl, -⟩ := (follows_delimiter_iff rfl).1 hf
    exact ih.ofText_append hc fun _ => rfl
  | @delimiter m _ _ _ _ hd hf ih => cases m <;> cases hd <;> exact ih.cons_delimiter nofun (by simp [Token.Named])
  | piped hm hn hnc hc hf ih =>
    obtain ⟨us, rfl, -⟩ := (follows_delimiter_iff rfl).1 hf
    exact ih.cons_name (named_of_nameKind? hm) hn hnc hc nofun
  | closed hm hn hnc hc hf ih =>
    obtain ⟨us, rfl, -⟩ := (follows_delimiter_iff rfl).1 hf
    exact ih.cons_name (named_of_nameKind? hm) hn hnc hc fun _ => rfl

/-- The part of a layout that is still to come in a mode. -/
def Remainder : Scanner.Mode → List Token → Prop
  | .text, ts => ∃ t ps, ts = Token.ofText t ++ Token.ofParts ps
  | .leftDelimiter, ts => ∃ p ps, ts = Token.ofParts (p :: ps)
  | .variableName, ts => ∃ n fs t ps, ts = ⟨.variableName, n⟩ ::
      (Token.ofFilters fs ++ ⟨.rightDelimiter, Token.closing⟩ :: (Token.ofText t ++ Token.ofParts ps))
  | .filterName, ts => ∃ n fs t ps, ts = ⟨.filterName, n⟩ ::
      (Token.ofFilters fs ++ ⟨.rightDelimiter, Token.closing⟩ :: (Token.ofText t ++ Token.ofParts ps))
  | .pipe, ts => ∃ n fs t ps, ts = Token.ofFilters (n :: fs) ++
      ⟨.rightDelimiter, Token.closing⟩ :: (Token.ofText t ++ Token.ofParts ps)
  | .rightDelimiter, ts => ∃ t ps, ts = ⟨.rightDelimiter, Token.closing⟩ :: (Token.ofText t ++ Token.ofParts ps)
  | _, _ => True

theorem Follows.remainder {m : Scanner.Mode} {ts : List Token} (h : Follows m ts) : Remainder m ts := by
  induction h with
  | @ended t => exact ⟨t, [], rfl⟩
  | @opened t _ hc hf ih =>
    obtain ⟨p, ps, rfl⟩ := ih
    exact ⟨t, p :: ps, rfl⟩
  | @delimiter m _ _ _ _ hd hf ih =>
    cases m with
    | leftDelimiter =>
      cases hd
      obtain ⟨n, fs, t, ps, rfl⟩ := ih
      exact ⟨(⟨n, fs⟩, t), ps, rfl⟩
    | pipe =>
      cases hd
      obtain ⟨n, fs, t, ps, rfl⟩ := ih
      exact ⟨n, fs, t, ps, rfl⟩
    | rightDelimiter =>
      cases hd
      obtain ⟨t, ps, rfl⟩ := ih
      exact ⟨t, ps, rfl⟩
    | _ => cases hd
  | @piped m _ n _ hm hn hnc hc hf ih =>
    obtain ⟨f, fs, t, ps, rfl⟩ := ih
    cases m <;> cases hm <;> exact ⟨n, f :: fs, t, ps, rfl⟩
  | @closed m _ n _ hm hn hnc hc hf ih =>
    obtain ⟨t, ps, rfl⟩ := ih
    cases m <;> cases hm <;> exact ⟨n, [], t, ps, rfl⟩

/-- **The tokens of definitions are those that can be read from the beginning of a text on.** -/
theorem wellFormed_iff_follows {ts : List Token} : WellFormed ts ↔ Follows .text ts := by
  constructor
  · rintro ⟨h, l, rfl⟩
    exact follows_text l.parts h
  · intro h
    obtain ⟨t, ps, e⟩ := h.remainder
    exact ⟨h.legible, ⟨t, ps⟩, e⟩

end PageHarvest
