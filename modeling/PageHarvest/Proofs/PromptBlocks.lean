import PageHarvest.Proofs.Dialogue
import Mathlib.Data.List.DropRight

/-!
# Asking again and again

Who asks for locations several times goes through the lines of an input. Each time a block of lines is read: the lines
up to the first one that is not blank or is not UTF-8 (`Prompt.Block`). What is said then is told by the last line of
the block, and how often the question was put by the number of its lines (`Prompt.Tells`).

- `Prompt.exists_block`: asking once takes one block.
- `Prompt.replies_in_blocks`: all that is said when one asks again and again.
-/

namespace PageHarvest

/-- What is trimmed has no white space to trim. -/
theorem Text.trim_trim (t : Text) : trim (trim t) = trim t := by
  have hstart : trimStart (trim t) = trim t := by
    obtain ⟨w, hw⟩ : trim t <+: trimStart t := List.rdropWhile_prefix isSpace (trimStart t)
    cases ht : trim t with
    | nil => rfl
    | cons c u =>
      -- the first character is the one at which trimming has stopped
      have hc : isSpace c = false := by
        have hhead := List.head?_dropWhile_not isSpace t
        rw [show t.dropWhile isSpace = trim t ++ w from hw.symm, ht] at hhead
        simpa using hhead
      simp [trimStart, hc]
  show trimEnd (trimStart (trim t)) = trim t
  rw [hstart]
  exact List.rdropWhile_idempotent isSpace (trimStart t)

namespace Prompt

/-- A line has one newline at most, and that at its end. -/
def IsLine (l : List UInt8) : Prop := l ≠ [] ∧ newline ∉ l.dropLast

/-! ## Blocks of lines -/

/-- A line that ends the asking: it is not UTF-8, or not blank. -/
def Decisive (line : List UInt8) : Prop := ∀ t, Text.bytes t = line → Text.trim t ≠ []

/-- The lines in front end in a decisive line, or they are all there are. -/
def Settled (ahead front : List (List UInt8)) : Prop :=
  front <+: ahead ∧ (front = ahead ∨ ∃ l, front.getLast? = some l ∧ Decisive l)

/-- **The lines that are read when one asks:** as few as will do. -/
structure Block (ahead block : List (List UInt8)) : Prop where
  settled : Settled ahead block
  shortest : ∀ front, Settled ahead front → block.length ≤ front.length

/-- What is said when a block of lines is read and others are left. -/
inductive Tells (block left : List (List UInt8)) : Reply → Prop
  | location {t : Text} : block.getLast? = some (Text.bytes t) → Text.trim t ≠ [] → Text.trim t ≠ quit →
      Tells block left ⟨.location (Text.trim t), block.length, left.flatten⟩
  | quit {t : Text} : block.getLast? = some (Text.bytes t) → Text.trim t = quit →
      Tells block left ⟨.finished, block.length, left.flatten⟩
  | unreadable {l : List UInt8} : block.getLast? = some l → (∀ t, Text.bytes t ≠ l) →
      Tells block left ⟨.unreadable, block.length, left.flatten⟩
  | ended : left = [] → (∀ l ∈ block, ¬ Decisive l) → Tells block left ⟨.finished, block.length + 1, left.flatten⟩

theorem not_decisive_iff {l : List UInt8} : ¬ Decisive l ↔ answer? l = none := by
  unfold Decisive answer?
  cases hl : Text.ofBytes? l with
  | none =>
    have hnone (t : Text) : Text.bytes t ≠ l := by
      intro e
      rw [Text.ofBytes?_eq_some_iff.2 e] at hl
      cases hl
    simp [hnone]
  | some t =>
    have ht := Text.ofBytes?_eq_some_iff.1 hl
    have huniq (u : Text) : Text.bytes u = l ↔ u = t := ⟨fun e => Text.bytes_injective (e.trans ht.symm), fun e => e ▸ ht⟩
    simp only [huniq, forall_eq]
    by_cases hb : Text.trim t = []
    · simp [hb]
    · by_cases hq : Text.trim t = quit <;> simp [hb, hq]

section Cons

variable {line : List UInt8} {ahead block left : List (List UInt8)}

theorem block_nil : Block [] [] := ⟨⟨List.nil_prefix, .inl rfl⟩, fun _ _ => Nat.zero_le _⟩

/-- What is settled has a line, if there is one. -/
theorem Settled.ne_nil {front : List (List UInt8)} (h : Settled (line :: ahead) front) : front ≠ [] := by
  rintro rfl
  rcases h.2 with h | ⟨l, h, -⟩ <;> cases h

/-- A decisive line is a block. -/
theorem block_of_decisive (h : Decisive line) : Block (line :: ahead) [line] where
  settled := ⟨by simp, .inr ⟨line, rfl, h⟩⟩
  shortest _ hf := List.length_pos_iff.2 hf.ne_nil

/-- A line that is not decisive goes into the block behind it. -/
theorem Block.cons (h : Block ahead block) (hline : ¬ Decisive line) : Block (line :: ahead) (line :: block) := by
  refine ⟨⟨List.cons_prefix_cons.2 ⟨rfl, h.settled.1⟩, ?_⟩, fun front hf => ?_⟩
  · rcases h.settled.2 with rfl | ⟨l, hl, hd⟩
    · exact .inl rfl
    · exact .inr ⟨l, by rw [List.getLast?_cons, hl]; rfl, hd⟩
  · obtain ⟨l, front, rfl⟩ := List.exists_cons_of_ne_nil hf.ne_nil
    obtain ⟨rfl, hahead⟩ := List.cons_prefix_cons.1 hf.1
    have hsettled : Settled ahead front := by
      refine ⟨hahead, ?_⟩
      rcases hf.2 with he | ⟨l', hl, hd⟩
      · exact .inl (List.cons.inj he).2
      · rw [List.getLast?_cons] at hl
        cases hfront : front.getLast? with
        | none =>
          rw [hfront] at hl
          cases hl
          exact absurd hd hline
        | some l'' =>
          rw [hfront] at hl
          cases hl
          exact .inr ⟨_, rfl, hd⟩
    have := h.shortest front hsettled
    simp only [List.length_cons]
    omega

/-- What a decisive line says. -/
theorem tells_of_answer? {a : Answer} (h : answer? line = some a) (left : List (List UInt8)) :
    Tells [line] left ⟨a, 1, left.flatten⟩ := by
  unfold answer? at h
  cases hl : Text.ofBytes? line with
  | none =>
    rw [hl] at h
    cases h
    refine .unreadable (l := line) rfl fun t e => ?_
    rw [Text.ofBytes?_eq_some_iff.2 e] at hl
    cases hl
  | some t =>
    obtain rfl := Text.ofBytes?_eq_some_iff.1 hl
    simp only [hl] at h
    by_cases hb : Text.trim t = []
    · simp [hb] at h
    · by_cases hq : Text.trim t = quit
      · simp only [if_neg hb, if_pos hq, Option.some.injEq] at h
        subst h
        exact .quit rfl hq
      · simp only [if_neg hb, if_neg hq, Option.some.injEq] at h
        subst h
        exact .location rfl hb hq

/-- A line that is not decisive takes one prompt more. -/
theorem Tells.cons {r : Reply} (h : Tells block left r) (hline : ¬ Decisive line) :
    Tells (line :: block) left { r with prompts := r.prompts + 1 } := by
  have hlast {l : List UInt8} (hl : block.getLast? = some l) : (line :: block).getLast? = some l := by
    rw [List.getLast?_cons, hl]
    rfl
  cases h with
  | location hl hb hq => exact .location (hlast hl) hb hq
  | quit hl hq => exact .quit (hlast hl) hq
  | unreadable hl hn => exact .unreadable (hlast hl) hn
  | ended hleft hblank => exact .ended hleft (List.forall_mem_cons.2 ⟨hline, hblank⟩)

end Cons

/-- **Asking once takes one block of lines,** and leaves the others. -/
theorem exists_block (input : List UInt8) : ∃ block, byteLines input = block ++ byteLines (read input).rest ∧
    Block (byteLines input) block ∧ Tells block (byteLines (read input).rest) (read input) := by
  fun_induction read input with
  | case1 => exact ⟨[], rfl, block_nil, .ended rfl (by simp)⟩
  | case2 input hne answer ha =>
    have hd : Decisive (splitLine input).1 := by
      by_contra hn
      rw [not_decisive_iff.1 hn] at ha
      cases ha
    have htells := tells_of_answer? ha (byteLines (splitLine input).2)
    rw [byteLines, (lined_linesAt _ _).flatten_eq] at htells
    rw [byteLines_eq hne]
    exact ⟨[(splitLine input).1], rfl, block_of_decisive hd, htells⟩
  | case3 input hne ha reply ih =>
    have hd := not_decisive_iff.2 ha
    obtain ⟨block, hlines, hblock, htells⟩ := ih
    rw [byteLines_eq hne]
    exact ⟨(splitLine input).1 :: block, congrArg _ hlines, hblock.cons hd, htells.cons hd⟩

/-! ## Asking again -/

/-- What is said to someone who asks a number of times. -/
def replies : Nat → List UInt8 → List Reply
  | 0, _ => []
  | n + 1, input => read input :: replies n (read input).rest

/-- Replies to blocks that follow one another, with lines left behind them. -/
inductive InBlocks (left : List (List UInt8)) : List (List (List UInt8)) → List Reply → Prop
  | nil : InBlocks left [] []
  | cons {block : List (List UInt8)} {blocks : List (List (List UInt8))} {r : Reply} {rs : List Reply} :
      Block (block ++ (blocks.flatten ++ left)) block → Tells block (blocks.flatten ++ left) r →
      InBlocks left blocks rs → InBlocks left (block :: blocks) (r :: rs)

theorem length_replies (n : Nat) (input : List UInt8) : (replies n input).length = n := by
  induction n generalizing input with
  | zero => rfl
  | succ n ih => simp [replies, ih]

theorem InBlocks.length_eq {left : List (List UInt8)} {blocks : List (List (List UInt8))} {rs : List Reply}
    (h : InBlocks left blocks rs) : blocks.length = rs.length := by
  induction h with
  | nil => rfl
  | cons _ _ _ ih => simp [ih]

/-- The replies tell of blocks, one after the other. -/
theorem exists_blocks (n : Nat) (input : List UInt8) : ∃ blocks left, byteLines input = blocks.flatten ++ left ∧
    InBlocks left blocks (replies n input) := by
  induction n generalizing input with
  | zero => exact ⟨[], byteLines input, rfl, .nil⟩
  | succ n ih =>
    obtain ⟨block, hlines, hblock, htells⟩ := exists_block input
    obtain ⟨blocks, left, hrest, hblocks⟩ := ih (read input).rest
    rw [hlines, hrest] at hblock
    rw [hrest] at htells
    exact ⟨block :: blocks, left, by simp [hlines, hrest], .cons hblock htells hblocks⟩

/-- A location is neither blank nor untrimmed, nor the wish to stop. -/
theorem Tells.location_ne {block left : List (List UInt8)} {r : Reply} (h : Tells block left r) {l : Text}
    (hl : r.answer = .location l) : l ≠ [] ∧ Text.trim l = l ∧ l ≠ Prompt.quit := by
  cases h with
  | location _ hb hq =>
    cases hl
    exact ⟨hb, Text.trim_trim _, hq⟩
  | quit => cases hl
  | unreadable => cases hl
  | ended => cases hl

theorem InBlocks.location_ne {left : List (List UInt8)} {blocks : List (List (List UInt8))} {rs : List Reply}
    (h : InBlocks left blocks rs) {r : Reply} (hr : r ∈ rs) {l : Text} (hl : r.answer = .location l) :
    l ≠ [] ∧ Text.trim l = l ∧ l ≠ quit := by
  induction h with
  | nil => cases hr
  | cons _ htells _ ih =>
    rcases List.mem_cons.1 hr with rfl | hr
    · exact htells.location_ne hl
    · exact ih hr

/-- A session in which a line is not UTF-8 ends with this error. -/
theorem message_of_unreadable (s : Session) {input : List UInt8} (h : (read input).answer = .unreadable) :
    (s.interactive input).error.map Session.Error.message = some "error reading from stdin".toList := by
  rw [Session.interactive_eq, h]
  rfl

/-- **Asking again and again goes through an input line by line.** The lines of an input make it up; each of them has a
newline at its end and nowhere else, and only the last one may lack it. The replies tell of blocks of lines that follow
one another, each of them as short as can be: a line that is not UTF-8, or what is left of the last line without white
space, or the end of the input. There is one prompt for each line of a block, and one more at the end of the input. So
no location is blank, has white space around it or is the wish to stop. -/
theorem replies_in_blocks (input : List UInt8) (n : Nat) :
    ((byteLines input).flatten = input ∧ (∀ l ∈ byteLines input, IsLine l) ∧
      ∀ l ∈ (byteLines input).dropLast, l.getLast? = some newline) ∧
    (∃ blocks left, blocks.length = n ∧ byteLines input = blocks.flatten ++ left ∧
      InBlocks left blocks (replies n input)) ∧
    (∀ r ∈ replies n input, r.written = (List.replicate r.prompts text).flatten ∧
      ∀ l, r.answer = .location l → l ≠ [] ∧ Text.trim l = l ∧ l ≠ quit) ∧
    ∀ s : Session, (read input).answer = .unreadable →
      (s.interactive input).error.map Session.Error.message = some "error reading from stdin".toList := by
  obtain ⟨blocks, left, hlines, hblocks⟩ := exists_blocks n input
  have hlength : blocks.length = n := by rw [hblocks.length_eq, length_replies]
  have hlined : Lined newline input (byteLines input) := lined_linesAt newline input
  refine ⟨⟨hlined.flatten_eq, fun l hl => ⟨hlined.ne_nil hl, hlined.not_mem_dropLast hl⟩,
      fun l => hlined.getLast?_of_mem_dropLast⟩,
    ⟨blocks, left, hlength, hlines, hblocks⟩, fun r hr => ⟨rfl, fun l => hblocks.location_ne hr⟩, ?_⟩
  intro s h
  exact message_of_unreadable s h

/-- A blank line, a line that is not UTF-8, the wish to stop, a location without a newline, and the end. -/
theorem replies_in_blocks_unreadable :
    replies 4 ([0x20, newline, 0xff, newline] ++ Text.bytes "q\n\tx".toList) =
      [⟨.unreadable, 2, Text.bytes "q\n\tx".toList⟩, ⟨.finished, 1, Text.bytes "\tx".toList⟩,
        ⟨.location ['x'], 1, []⟩, ⟨.finished, 1, []⟩] ∧
    (['x'] ≠ [] ∧ Text.trim ['x'] = ['x'] ∧ ['x'] ≠ quit) ∧
    ∀ s : Session, (s.interactive ([0x20, newline, 0xff, newline] ++ Text.bytes "q\n\tx".toList)).error.map
      Session.Error.message = some "error reading from stdin".toList := by
  have hrun : replies 4 ([0x20, newline, 0xff, newline] ++ Text.bytes "q\n\tx".toList) =
      [⟨.unreadable, 2, Text.bytes "q\n\tx".toList⟩, ⟨.finished, 1, Text.bytes "\tx".toList⟩,
        ⟨.location ['x'], 1, []⟩, ⟨.finished, 1, []⟩] := by decide +kernel
  obtain ⟨-, -, hsaid, hfails⟩ :=
    replies_in_blocks ([0x20, newline, 0xff, newline] ++ Text.bytes "q\n\tx".toList) 4
  have hmem : (⟨.location ['x'], 1, []⟩ : Reply) ∈
      replies 4 ([0x20, newline, 0xff, newline] ++ Text.bytes "q\n\tx".toList) := by
    rw [hrun]
    simp
  exact ⟨hrun, (hsaid _ hmem).2 ['x'] rfl, fun s => hfails s (by decide +kernel)⟩

end Prompt

end PageHarvest
