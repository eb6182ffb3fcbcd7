import PageHarvest.Text.Basic

/-!
# Texts that show where they end

A way of writing things is `PrefixFree` if nothing that is written goes on with what something else is. Then it can be
told from a text what is written at its beginning and where that ends, whatever stands behind it. Ways of writing are put
together from smaller ones, and the whole is prefix-free if its parts are.

- `PrefixFree.of_read`: what can be read back is prefix-free.
- `prefixFree_until`: a text and a mark that it does not hold.
- `PrefixFree.append`, `PrefixFree.comp`: one part of a thing behind another one, and a part that tells the whole.
- `PrefixFree.flatMap_append`: the items of a list, up to a mark that no item begins with.
- `PrefixFree.eq_of_flatMap_eq`: the items of a list, up to the end of the text.
-/

namespace PageHarvest

/-- Where a thing with the property `P` is written, nothing else is, and what stands behind it is told as well. -/
def PrefixFree {α : Type} (P : α → Prop) (write : α → Text) : Prop :=
  ∀ ⦃a b : α⦄, P a → P b → ∀ ⦃s t : Text⦄, write a ++ s = write b ++ t → a = b ∧ s = t

variable {α β : Type} {P : α → Prop} {Q : β → Prop} {write : α → Text} {write' : β → Text}

/-- What can be read back, whatever stands behind it, is prefix-free. -/
theorem PrefixFree.of_read (read : Text → Option (α × Text)) (h : ∀ a, P a → ∀ s, read (write a ++ s) = some (a, s)) :
    PrefixFree P write := by
  intro a b ha hb s t he
  have hread : some (a, s) = some (b, t) := by rw [← h a ha s, he, h b hb t]
  exact Prod.mk.inj (Option.some.inj hread)

/-- A text and a mark that it does not hold. -/
theorem prefixFree_until (c : Char) : PrefixFree (fun x : Text => c ∉ x) fun x => x ++ [c] := by
  refine .of_read (fun x => some (x.takeWhile (· ≠ c), (x.dropWhile (· ≠ c)).tail)) fun x hx s => ?_
  have hne : ∀ d ∈ x, decide (d ≠ c) = true := by
    intro d hd
    rw [decide_eq_true_eq]
    rintro rfl
    exact hx hd
  rw [List.append_assoc, List.takeWhile_append_of_pos hne, List.dropWhile_append_of_pos hne]
  simp

namespace PrefixFree

theorem mono {P' : α → Prop} (h : PrefixFree P write) (hP : ∀ a, P' a → P a) : PrefixFree P' write :=
  fun _ _ ha hb _ _ he => h (hP _ ha) (hP _ hb) he

/-- A thing that is written by a part of it, and told by this part. -/
theorem comp (h : PrefixFree P write) (part : β → α) (hpart : ∀ b, Q b → P (part b))
    (hinj : ∀ b b', Q b → Q b' → part b = part b' → b = b') : PrefixFree Q fun b => write (part b) := by
  intro b b' hb hb' s t he
  obtain ⟨hpb, hst⟩ := h (hpart b hb) (hpart b' hb') he
  exact ⟨hinj b b' hb hb' hpb, hst⟩

/-- Two things, one behind the other. -/
theorem append (h : PrefixFree P write) (h' : PrefixFree Q write') :
    PrefixFree (fun x : α × β => P x.1 ∧ Q x.2) fun x => write x.1 ++ write' x.2 := by
  rintro ⟨a, b⟩ ⟨a', b'⟩ ⟨ha, hb⟩ ⟨ha', hb'⟩ s t he
  rw [List.append_assoc, List.append_assoc] at he
  obtain ⟨rfl, hbehind⟩ := h ha ha' he
  obtain ⟨rfl, rfl⟩ := h' hb hb' hbehind
  exact ⟨rfl, rfl⟩

/-- A thing with a fixed text in front of it. -/
theorem append_left (h : PrefixFree P write) (x : Text) : PrefixFree P fun a => x ++ write a := by
  intro a b ha hb s t he
  rw [List.append_assoc, List.append_assoc] at he
  exact h ha hb (List.append_cancel_left he)

/-- A thing with a fixed text behind it. -/
theorem append_right (h : PrefixFree P write) (x : Text) : PrefixFree P fun a => write a ++ x := by
  intro a b ha hb s t he
  rw [List.append_assoc, List.append_assoc] at he
  obtain ⟨rfl, hbehind⟩ := h ha hb he
  exact ⟨rfl, List.append_cancel_left hbehind⟩

/-- The items of a list, up to a mark that no item begins with. -/
theorem flatMap_append (h : PrefixFree P write) {c : Char} (hc : ∀ a, P a → ∃ d x, write a = d :: x ∧ d ≠ c) :
    PrefixFree (fun as : List α => ∀ a ∈ as, P a) fun as => as.flatMap write ++ [c] := by
  have hmark {a : α} (ha : P a) (s t : Text) : c :: s ≠ write a ++ t := by
    obtain ⟨d, x, hd, hne⟩ := hc a ha
    rw [hd]
    intro he
    exact hne (List.cons.inj he).1.symm
  intro as bs has hbs s t he
  simp only [List.append_assoc, List.singleton_append] at he
  induction as generalizing bs with
  | nil =>
    cases bs with
    | nil => exact ⟨rfl, (List.cons.inj he).2⟩
    | cons b bs =>
      rw [List.flatMap_cons, List.append_assoc] at he
      exact absurd he (hmark (hbs b List.mem_cons_self) _ _)
  | cons a as ih =>
    obtain ⟨ha, has⟩ := List.forall_mem_cons.1 has
    rw [List.flatMap_cons, List.append_assoc] at he
    cases bs with
    | nil => exact absurd he.symm (hmark ha _ _)
    | cons b bs =>
      obtain ⟨hb, hrest⟩ := List.forall_mem_cons.1 hbs
      rw [List.flatMap_cons, List.append_assoc] at he
      obtain ⟨rfl, hbehind⟩ := h ha hb he
      obtain ⟨rfl, rfl⟩ := ih has hrest hbehind
      exact ⟨rfl, rfl⟩

/-- The items of a list, up to the end of the text. -/
theorem eq_of_flatMap_eq (h : PrefixFree P write) (hne : ∀ a, P a → write a ≠ []) {as bs : List α} (has : ∀ a ∈ as, P a)
    (hbs : ∀ b ∈ bs, P b) (he : as.flatMap write = bs.flatMap write) : as = bs := by
  induction as generalizing bs with
  | nil =>
    cases bs with
    | nil => rfl
    | cons b bs =>
      have hb := List.flatMap_eq_nil_iff.1 he.symm b List.mem_cons_self
      exact absurd hb (hne b (hbs b List.mem_cons_self))
  | cons a as ih =>
    obtain ⟨ha, has⟩ := List.forall_mem_cons.1 has
    cases bs with
    | nil => exact absurd (List.flatMap_eq_nil_iff.1 he a List.mem_cons_self) (hne a ha)
    | cons b bs =>
      obtain ⟨hb, hrest⟩ := List.forall_mem_cons.1 hbs
      rw [List.flatMap_cons, List.flatMap_cons] at he
      obtain ⟨rfl, hbehind⟩ := h ha hb he
      rw [ih has hrest hbehind]

end PrefixFree

end PageHarvest
