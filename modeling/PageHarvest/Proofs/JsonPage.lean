import PageHarvest.Page.Format
import PageHarvest.Proofs.PrefixFree
import PageHarvest.Text.Digits

/-!
# Pages as JSON can be read back

Nothing that is found in a page can pass for a part of the JSON around it. A character inside a string is read back from
its form there (`Json.readChar?`), and no form begins with the quote that ends the string. Behind an item between
brackets comes a comma or, if it is the last one, a new line.

- `Json.readChar?_escapeChar`, `Json.prefixFree_string`: characters and strings.
- `Json.prefixFree_enclosed`: items between brackets, if the items are prefix-free.
- `OutputFormat.present_json_eq_iff`: pages with one printed text are the same in all their parts.
-/

namespace PageHarvest

namespace Json

/-! ## Strings -/

/-- The character that two hexadecimal digits stand for. -/
def charOfDigits (hi lo : Char) : Option Char :=
  (Text.digit? 16 hi).bind fun h => (Text.digit? 16 lo).map fun l => Char.ofNat (16 * h + l)

/-- The first character of a text inside a JSON string, and what stands behind its form there. -/
def readChar? : Text → Option (Char × Text)
  | '\\' :: 'u' :: '0' :: '0' :: hi :: lo :: s => (charOfDigits hi lo).map fun c => (c, s)
  | '\\' :: 'b' :: s => some ('\x08', s)
  | '\\' :: 't' :: s => some ('\t', s)
  | '\\' :: 'n' :: s => some ('\n', s)
  | '\\' :: 'f' :: s => some ('\x0c', s)
  | '\\' :: 'r' :: s => some ('\r', s)
  | '\\' :: c :: s => some (c, s)
  | c :: s => some (c, s)
  | [] => none

theorem digit?_digitChar : ∀ n < 16, Text.digit? 16 (Nat.digitChar n) = some n := by decide

theorem charOfDigits_digitChar {c : Char} (h : c.toNat < 0x20) :
    charOfDigits (Nat.digitChar (c.toNat / 16)) (Nat.digitChar (c.toNat % 16)) = some c := by
  rw [charOfDigits, digit?_digitChar _ (by omega), digit?_digitChar _ (Nat.mod_lt _ (by decide)), Option.bind_some,
    Option.map_some, Nat.div_add_mod, Char.ofNat_toNat]

/-- **Each character is read back from its form.** -/
theorem readChar?_escapeChar (c : Char) (s : Text) : readChar? (escapeChar c ++ s) = some (c, s) := by
  unfold escapeChar
  -- the characters that a letter or a sign stands for
  iterate 7 (split; · subst_vars; rfl)
  split
  · rename_i h
    simp [readChar?, charOfDigits_digitChar h]
  · unfold readChar?
    split <;> simp_all

theorem prefixFree_escapeChar : PrefixFree (fun _ => True) escapeChar :=
  .of_read readChar? fun c _ s => readChar?_escapeChar c s

/-- No form begins with a quote: it would be read as one, but a quote has another form. -/
theorem exists_escapeChar_cons (c : Char) (_ : True) : ∃ d x, escapeChar c = d :: x ∧ d ≠ '"' := by
  have hread := readChar?_escapeChar c []
  rw [List.append_nil] at hread
  cases he : escapeChar c with
  | nil =>
    rw [he] at hread
    cases hread
  | cons d x =>
    refine ⟨d, x, rfl, ?_⟩
    rintro rfl
    rw [he] at hread
    cases hread
    cases he

/-- A string ends at the first quote that is not part of a form. -/
theorem prefixFree_string : PrefixFree (fun _ => True) string :=
  ((prefixFree_escapeChar.flatMap_append exists_escapeChar_cons).append_left ['"']).mono fun _ _ _ _ => trivial

/-! ## Numbers -/

theorem number_eq (n : Nat) : number n = Nat.toDigits 10 n := by
  rw [number, Nat.toString_eq_repr, Nat.toList_repr]

theorem comma_not_mem_number (n : Nat) : ',' ∉ number n := by
  rw [number_eq]
  intro h
  have hdigit := Nat.isDigit_of_mem_toDigits (by decide) (by decide) h
  exact absurd hdigit (by decide)

theorem number_injective {m n : Nat} (h : number m = number n) : m = n := by
  rw [number_eq, number_eq] at h
  calc m = Nat.ofDigitChars 10 (Nat.toDigits 10 m) 0 := Nat.ofDigitChars_ten_toDigits.symm
    _ = Nat.ofDigitChars 10 (Nat.toDigits 10 n) 0 := by rw [h]
    _ = n := Nat.ofDigitChars_ten_toDigits

/-- A number ends at a comma. -/
theorem prefixFree_number : PrefixFree (fun _ => True) fun n => number n ++ [','] :=
  (prefixFree_until ',').comp number (fun n _ => comma_not_mem_number n) fun _ _ _ _ he => number_injective he

/-! ## Arrays and objects -/

section Enclosed

variable {α : Type} {P : α → Prop} {write : α → Text}

/-- What is written between brackets if there is a first item: the items behind it come with a comma, and a new line
stands behind the last one. -/
theorem enclosed_map_cons (opening closing : Char) (depth : Nat) (a : α) (as : List α) :
    enclosed opening closing depth ((a :: as).map write) =
      opening :: newline (depth + 1) ++
        ((write a ++ (as.flatMap (fun b => ',' :: newline (depth + 1) ++ write b) ++ ['\n'])) ++
          (List.replicate (2 * depth) ' ' ++ [closing])) := by
  simp [enclosed, newline, List.flatMap_map]

/-- Items between brackets, of which the closing one is no new line. -/
theorem prefixFree_enclosed (h : PrefixFree P write) (opening : Char) {closing : Char} (hc : closing ≠ '\n')
    (depth : Nat) :
    PrefixFree (fun as : List α => ∀ a ∈ as, P a) fun as => enclosed opening closing depth (as.map write) := by
  have hcomma (a : α) (_ : P a) : ∃ d x, ',' :: newline (depth + 1) ++ write a = d :: x ∧ d ≠ '\n' :=
    ⟨',', _, rfl, by decide⟩
  have hitems := h.append ((h.append_left (',' :: newline (depth + 1))).flatMap_append hcomma)
  have hcons := (hitems.append_right (List.replicate (2 * depth) ' ' ++ [closing])).append_left
    (opening :: newline (depth + 1))
  intro as bs has hbs s t he
  cases as with
  | nil =>
    cases bs with
    | nil => exact ⟨rfl, List.append_cancel_left he⟩
    | cons b bs =>
      -- behind the opening bracket stands the closing one, or a new line
      exact absurd (List.cons.inj (List.cons.inj he).2).1 hc
  | cons a as =>
    cases bs with
    | nil => exact absurd (List.cons.inj (List.cons.inj he).2).1.symm hc
    | cons b bs =>
      simp only [enclosed_map_cons] at he
      obtain ⟨hpair, hst⟩ := @hcons (a, as) (b, bs) (List.forall_mem_cons.1 has) (List.forall_mem_cons.1 hbs) s t he
      obtain ⟨rfl, rfl⟩ := Prod.mk.inj hpair
      exact ⟨rfl, hst⟩

end Enclosed

/-- A field of a record: its name ends where a string ends, and so does its value. -/
theorem prefixFree_field : PrefixFree (fun _ : Text × Text => True) fun f => member f.1 (string f.2) :=
  ((prefixFree_string.append_right [':', ' ']).append prefixFree_string).mono fun _ _ => ⟨trivial, trivial⟩

theorem prefixFree_record (depth : Nat) : PrefixFree (fun _ => True) (record depth) :=
  (prefixFree_enclosed prefixFree_field '\x7b' (by decide) depth).comp Record.fields (fun _ _ _ _ => trivial)
    fun _ _ _ _ he => Record.ext he

theorem prefixFree_records (depth : Nat) :
    PrefixFree (fun _ => True) fun rs : List Record => enclosed '[' ']' depth (rs.map (record (depth + 1))) :=
  (prefixFree_enclosed (prefixFree_record (depth + 1)) '[' (by decide) depth).mono fun _ _ _ _ => trivial

/-! ## Pages -/

/-- The parts of a page, and the fixed texts around them. -/
theorem exists_page_eq : ∃ x y z w : Text, ∀ p : Page, page p =
    x ++ (string p.location ++ (y ++ (number p.size ++ [','] ++ (z ++
      (enclosed '[' ']' 1 (p.records.map (record 2)) ++ w))))) := by
  refine ⟨'\x7b' :: (newline 1 ++ (string "location".toList ++ [':', ' '])),
    ',' :: (newline 1 ++ (string "size".toList ++ [':', ' '])),
    newline 1 ++ (string "records".toList ++ [':', ' ']), newline 0 ++ ['\x7d'], fun p => ?_⟩
  simp [page, enclosed, member]

/-- **A page can be told from its JSON.** -/
theorem eq_of_page_eq {p q : Page} (h : page p = page q) : p = q := by
  obtain ⟨x, y, z, w, hpage⟩ := exists_page_eq
  rw [hpage, hpage] at h
  obtain ⟨hlocation, h⟩ := prefixFree_string trivial trivial (List.append_cancel_left h)
  obtain ⟨hsize, h⟩ := prefixFree_number trivial trivial (List.append_cancel_left h)
  obtain ⟨hrecords, -⟩ := prefixFree_records 1 trivial trivial (List.append_cancel_left h)
  cases p
  cases q
  cases hlocation
  cases hsize
  cases hrecords
  rfl

end Json

/-- **JSON output loses nothing.** Two pages are printed alike as JSON if and only if they have the same location, the
same size and the same records, each with the same fields in the same order. -/
theorem OutputFormat.present_json_eq_iff (p q : Page) :
    present .json p = present .json q ↔
      p.location = q.location ∧ p.size = q.size ∧ p.records.map Record.fields = q.records.map Record.fields := by
  constructor
  · intro h
    cases Json.eq_of_page_eq h
    exact ⟨rfl, rfl, rfl⟩
  · rintro ⟨hlocation, hsize, hfields⟩
    have hrecords : p.records = q.records := (List.map_inj_right fun _ _ => Record.ext).1 hfields
    rw [present, present, Json.page, Json.page, hlocation, hsize, hrecords]

end PageHarvest
