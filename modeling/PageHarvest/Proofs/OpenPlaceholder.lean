import Mathlib.Data.Nat.Find
import Mathlib.Data.Nat.Init
import PageHarvest.Proofs.Ink
import PageHarvest.Template.Basic

/-!
# Open placeholders

A placeholder is open from its name on until a literal text with ink comes. `Template.OpenAt` says that one is open where
another one begins or where the template ends; such tokens are no template. The check keeps no more than one name; what
it keeps in front of the token `j` is `Template.opened ts j`.

- `exists_of_opened`, `opened_ne_none`: the name kept is that of a placeholder which is open.
- `checkPlaceholders_eq_checkFrom`: the check comes to the token `j` if no placeholder is open at a limit in front of it.
- `checkPlaceholders_exact`: what the check accepts, and how it refuses.
-/

namespace PageHarvest

open Text (ink isBlankText)

/-- A token that a value cannot reach beyond: the name of a placeholder, or the end of the template. -/
def Token.IsLimit (t : Token) : Prop := t.kind = .variableName ∨ t.kind = .endOfTemplate

namespace Template

/-- The placeholder whose name is the token `i` is still open at the limit `j`. -/
structure OpenAt (ts : List Token) (i j : Nat) : Prop where
  lt : i < j
  name : ∃ x, ts[i]? = some x ∧ x.kind = .variableName
  limit : ∃ y, ts[j]? = some y ∧ y.IsLimit
  blank : ∀ m z, i < m → m < j → ts[m]? = some z → z.kind = .text → ink z.literal = []

/-! ## One token -/

/-- The placeholder that is open behind a token if `before` is the one that is open in front of it. -/
def openBehind (before : Option Text) (t : Token) : Option Text :=
  match t.kind with
  | .variableName => some t.literal
  | .text => if isBlankText t.literal then before else none
  | _ => before

/-- The check goes on behind a token, unless a placeholder is open there and the token is a limit. -/
theorem checkFrom_cons {before : Option Text} {t : Token} (h : before = none ∨ ¬ t.IsLimit) (ts : List Token) :
    checkFrom before (t :: ts) = checkFrom (openBehind before t) ts := by
  rcases h with rfl | h
  · cases hk : t.kind <;> simp [checkFrom, openBehind, hk]
  · cases hk : t.kind with
    | variableName => exact absurd (.inl hk) h
    | endOfTemplate => exact absurd (.inr hk) h
    | _ => simp [checkFrom, openBehind, hk]

theorem openBehind_of_name (before : Option Text) {t : Token} (h : t.kind = .variableName) :
    openBehind before t = some t.literal := by
  simp [openBehind, h]

/-- What is open in front of a token that is neither a name nor a text with ink is open behind it. -/
theorem openBehind_of_blank (before : Option Text) {t : Token} (hn : t.kind ≠ .variableName)
    (ht : t.kind = .text → ink t.literal = []) : openBehind before t = before := by
  unfold openBehind
  cases hk : t.kind with
  | variableName => exact absurd hk hn
  | text => simp [Text.isBlankText_iff.2 (ht hk)]
  | _ => rfl

theorem openBehind_of_ink (before : Option Text) {t : Token} (hk : t.kind = .text) (ht : ink t.literal ≠ []) :
    openBehind before t = none := by
  simp [openBehind, hk, mt Text.isBlankText_iff.1 ht]

/-! ## What the check has kept -/

/-- The placeholder that is open in front of the token `j`. -/
def opened (ts : List Token) (j : Nat) : Option Text := (ts.take j).foldl openBehind none

theorem opened_succ {ts : List Token} {j : Nat} {t : Token} (h : ts[j]? = some t) :
    opened ts (j + 1) = openBehind (opened ts j) t := by
  simp [opened, List.take_add_one, h]

theorem opened_succ_of_none {ts : List Token} {j : Nat} (h : ts[j]? = none) : opened ts (j + 1) = opened ts j := by
  simp [opened, List.take_add_one, h]

/-- The name that is kept is that of a placeholder behind which no text with ink has come. -/
theorem exists_of_opened {ts : List Token} {j : Nat} {n : Text} (h : opened ts j = some n) :
    ∃ i x, i < j ∧ ts[i]? = some x ∧ x.kind = .variableName ∧ x.literal = n ∧
      ∀ m z, i < m → m < j → ts[m]? = some z → z.kind = .text → ink z.literal = [] := by
  induction j with
  | zero => simp [opened] at h
  | succ j ih =>
    cases ht : ts[j]? with
    | none =>
      rw [opened_succ_of_none ht] at h
      obtain ⟨i, x, hi, hx, hk, hn, hb⟩ := ih h
      refine ⟨i, x, by omega, hx, hk, hn, fun m z him hmj hz => ?_⟩
      have hne : m ≠ j := by
        rintro rfl
        simp [ht] at hz
      exact hb m z him (by omega) hz
    | some t =>
      rw [opened_succ ht] at h
      by_cases hname : t.kind = .variableName
      · rw [openBehind_of_name _ hname] at h
        exact ⟨j, t, by omega, ht, hname, Option.some.inj h, by omega⟩
      by_cases hink : t.kind = .text ∧ ink t.literal ≠ []
      · rw [openBehind_of_ink _ hink.1 hink.2] at h
        cases h
      · have hblank : t.kind = .text → ink t.literal = [] := by simpa using hink
        rw [openBehind_of_blank _ hname hblank] at h
        obtain ⟨i, x, hi, hx, hk, hn, hb⟩ := ih h
        refine ⟨i, x, by omega, hx, hk, hn, fun m z him hmj hz => ?_⟩
        by_cases hm : m = j
        · subst hm
          cases ht.symm.trans hz
          exact hblank
        · exact hb m z him (by omega) hz

/-- A name is kept as long as no text with ink has come. -/
theorem opened_ne_none {ts : List Token} {i j : Nat} {x : Token} (hij : i < j) (hx : ts[i]? = some x)
    (hk : x.kind = .variableName)
    (hb : ∀ m z, i < m → m < j → ts[m]? = some z → z.kind = .text → ink z.literal = []) : opened ts j ≠ none := by
  induction j, hij using Nat.le_induction with
  | base => simp [opened_succ hx, openBehind_of_name _ hk]
  | succ j hij ih =>
    have hkept := ih fun m z him hmj => hb m z him (by omega)
    cases ht : ts[j]? with
    | none => rwa [opened_succ_of_none ht]
    | some t =>
      rw [opened_succ ht]
      by_cases hname : t.kind = .variableName
      · simp [openBehind_of_name _ hname]
      · rwa [openBehind_of_blank _ hname (hb j t hij (by omega) ht)]

/-- A placeholder is open at a limit exactly if a name is kept there. -/
theorem exists_openAt_iff {ts : List Token} {j : Nat} {y : Token} (hy : ts[j]? = some y) (hl : y.IsLimit) :
    (∃ i, OpenAt ts i j) ↔ opened ts j ≠ none := by
  constructor
  · rintro ⟨i, h⟩
    obtain ⟨x, hx, hk⟩ := h.name
    exact opened_ne_none h.lt hx hk h.blank
  · intro h
    obtain ⟨n, hn⟩ := Option.ne_none_iff_exists'.1 h
    obtain ⟨i, x, hi, hx, hk, -, hb⟩ := exists_of_opened hn
    exact ⟨i, hi, ⟨x, hx, hk⟩, ⟨y, hy, hl⟩, hb⟩

/-! ## The whole check -/

/-- The check comes to the token `j` if no placeholder is open at a limit in front of it. -/
theorem checkPlaceholders_eq_checkFrom {ts : List Token} {j : Nat} (h : ∀ i k, k < j → ¬ OpenAt ts i k) :
    checkPlaceholders ts = checkFrom (opened ts j) (ts.drop j) := by
  induction j with
  | zero => rfl
  | succ j ih =>
    rw [ih fun i k hk => h i k (by omega)]
    cases ht : ts[j]? with
    | none =>
      have hlen : ts.length ≤ j := List.getElem?_eq_none_iff.1 ht
      rw [opened_succ_of_none ht, List.drop_eq_nil_of_le hlen, List.drop_eq_nil_of_le (by omega)]
    | some t =>
      have hgo : opened ts j = none ∨ ¬ t.IsLimit := by
        by_contra hn
        obtain ⟨hkept, hl⟩ := not_or.1 hn
        obtain ⟨i, hi⟩ := (exists_openAt_iff ht (not_not.1 hl)).2 hkept
        exact h i j (by omega) hi
      obtain ⟨hj, rfl⟩ := List.getElem?_eq_some_iff.1 ht
      rw [List.drop_eq_getElem_cons hj, checkFrom_cons hgo, opened_succ ht]

/-- Two placeholders are open at a limit only if one of them is open where the other one begins. -/
theorem OpenAt.of_lt {ts : List Token} {i i' j : Nat} (h : OpenAt ts i j) (h' : OpenAt ts i' j) (hlt : i < i') :
    OpenAt ts i i' := by
  obtain ⟨x, hx, hk⟩ := h'.name
  exact ⟨hlt, h.name, ⟨x, hx, .inl hk⟩, fun m z him hmi => h.blank m z him (Nat.lt_trans hmi h'.lt)⟩

/-- At the first limit at which a placeholder is open, only one is. -/
theorem OpenAt.unique {ts : List Token} {i i' j : Nat} (h : OpenAt ts i j) (h' : OpenAt ts i' j)
    (hfirst : ∀ i k, OpenAt ts i k → j ≤ k) : i' = i := by
  have hle := hfirst i i'
  have hle' := hfirst i' i
  have hj := h.lt
  have hj' := h'.lt
  by_contra hne
  rcases Nat.lt_or_gt_of_ne hne with hlt | hlt
  · have := hle' (h'.of_lt h hlt)
    omega
  · have := hle (h.of_lt h' hlt)
    omega

/-- At the first limit at which a placeholder is open, the check names this placeholder and what comes there. -/
theorem checkPlaceholders_of_openAt {ts : List Token} {i j : Nat} (h : OpenAt ts i j)
    (hfirst : ∀ i k, OpenAt ts i k → j ≤ k) {x y : Token} (hx : ts[i]? = some x) (hy : ts[j]? = some y) :
    (y.kind = .variableName → checkPlaceholders ts = .error (.adjacent x.literal y.literal)) ∧
      (y.kind = .endOfTemplate → checkPlaceholders ts = .error (.unbounded x.literal)) := by
  have hcome : checkPlaceholders ts = checkFrom (opened ts j) (ts.drop j) :=
    checkPlaceholders_eq_checkFrom fun i' k hk h' => by
      have := hfirst i' k h'
      omega
  obtain ⟨z, hz, hl⟩ := h.limit
  have hkept : opened ts j = some x.literal := by
    obtain ⟨n, hn⟩ := Option.ne_none_iff_exists'.1 ((exists_openAt_iff hz hl).1 ⟨i, h⟩)
    obtain ⟨i', x', hi', hx', hk', rfl, hb'⟩ := exists_of_opened hn
    have h' : OpenAt ts i' j := ⟨hi', ⟨x', hx', hk'⟩, h.limit, hb'⟩
    cases h.unique h' hfirst
    cases hx.symm.trans hx'
    exact hn
  obtain ⟨hj, rfl⟩ := List.getElem?_eq_some_iff.1 hy
  rw [hcome, hkept, List.drop_eq_getElem_cons hj]
  constructor <;> intro hk <;> simp [checkFrom, hk]

/-- Tokens in which no placeholder is open at a limit pass the check. -/
theorem checkPlaceholders_of_not_openAt {ts : List Token} (h : ∀ i j, ¬ OpenAt ts i j) :
    checkPlaceholders ts = .ok () := by
  rw [checkPlaceholders_eq_checkFrom fun i k _ => h i k, List.drop_length, checkFrom]

/-- If a placeholder is open at a limit, there is a first such limit. -/
theorem OpenAt.exists_first {ts : List Token} {i j : Nat} (h : OpenAt ts i j) :
    ∃ i j, OpenAt ts i j ∧ ∀ i' j', OpenAt ts i' j' → j ≤ j' := by
  classical
  have hex : ∃ j i, OpenAt ts i j := ⟨j, i, h⟩
  obtain ⟨i, hi⟩ := Nat.find_spec hex
  exact ⟨i, Nat.find hex, hi, fun i' j' h' => Nat.find_min' hex ⟨i', h'⟩⟩

/-- Tokens in which a placeholder is open at a limit do not pass. -/
theorem checkPlaceholders_ne_ok {ts : List Token} {i j : Nat} (h : OpenAt ts i j) : checkPlaceholders ts ≠ .ok () := by
  obtain ⟨i, j, hij, hfirst⟩ := h.exists_first
  obtain ⟨x, hx, -⟩ := hij.name
  obtain ⟨y, hy, hl⟩ := hij.limit
  obtain ⟨hname, hend⟩ := checkPlaceholders_of_openAt hij hfirst hx hy
  rcases hl with hl | hl
  · simp [hname hl]
  · simp [hend hl]

/-- **The check decides its rule exactly**, for tokens of any kind and in any order. They pass it if and only if no
placeholder is open where another one begins or where the template ends. If one is, then at the first such place only
one is, and the check names it, together with the placeholder that begins there. -/
theorem checkPlaceholders_exact (ts : List Token) :
    (checkPlaceholders ts = .ok () ↔ ∀ i j, ¬ OpenAt ts i j) ∧
    (checkPlaceholders ts ≠ .ok () → ∃ i j x y, OpenAt ts i j ∧ (∀ i' j', OpenAt ts i' j' → j ≤ j') ∧
      (∀ i', OpenAt ts i' j → i' = i) ∧ ts[i]? = some x ∧ ts[j]? = some y ∧
      (y.kind = .variableName → checkPlaceholders ts = .error (.adjacent x.literal y.literal)) ∧
      (y.kind = .endOfTemplate → checkPlaceholders ts = .error (.unbounded x.literal))) := by
  refine ⟨⟨fun h i j hij => checkPlaceholders_ne_ok hij h, checkPlaceholders_of_not_openAt⟩, fun h => ?_⟩
  have hex : ∃ i j, OpenAt ts i j := by
    by_contra hn
    push Not at hn
    exact h (checkPlaceholders_of_not_openAt hn)
  obtain ⟨i, j, hij⟩ := hex
  obtain ⟨i, j, hij, hfirst⟩ := hij.exists_first
  obtain ⟨x, hx, -⟩ := hij.name
  obtain ⟨y, hy, -⟩ := hij.limit
  exact ⟨i, j, x, y, hij, hfirst, fun i' h' => hij.unique h' hfirst, hx, hy,
    checkPlaceholders_of_openAt hij hfirst hx hy⟩

-- Blank text does not close a placeholder, and neither does an end that comes when none is open.
example : checkPlaceholders [⟨.endOfTemplate, []⟩, ⟨.variableName, ['a']⟩, ⟨.text, [' ']⟩, ⟨.variableName, ['b']⟩] =
    .error (.adjacent ['a'] ['b']) := by decide

end Template

end PageHarvest
