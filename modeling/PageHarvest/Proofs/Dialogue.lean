import PageHarvest.Proofs.BatchOrder
import PageHarvest.Proofs.Lines

/-!
# The dialogue of an interactive session

An interactive session goes through the lines of its input one by one. With the prompts taken out, what it writes is
what a batch of the locations entered writes (`Session.interactive_eq_batch`).

- `Session.interactive_eq`: a session asks, answers and asks again.
- `Session.dialogue`: what a session makes of lines; `Session.interactive_eq_dialogue`: it is run on those of its input.
- `Session.reply`: what is written for an entry; `Session.respond_eq`: it does not depend on the workers.
- `Session.interactive_bytes`: all that a session writes.
-/

namespace PageHarvest

namespace Prompt

/-! ## What is entered -/

/-- What is entered in the lines of an input, up to the wish to stop. -/
def entries (input : Text) : List Text := ((lines input).map Text.trim).takeWhile (· ≠ quit)

/-- The locations entered. A blank line is none. -/
def locations (input : Text) : List Text := (entries input).filter (· ≠ [])

/-- What a line says is told by what is left of it without white space. -/
theorem answer?_bytes (line : Text) : answer? (Text.bytes line) = if Text.trim line = [] then none
    else if Text.trim line = quit then some .finished else some (.location (Text.trim line)) := by
  simp only [answer?, Text.ofBytes?_bytes]

/-- What is written with one prompt more. -/
theorem Reply.written_succ (r : Reply) : { r with prompts := r.prompts + 1 : Reply }.written = text ++ r.written := by
  simp [Reply.written, List.replicate_succ]

end Prompt

namespace Session

open Pipeline (follow? fire? init answer)
open Prompt (byteLines lines entries locations quit splitLine answer?)

variable (s : Session)

/-! ## What is written -/

/-- What is written for what is entered in a line: the page, if it is a location and has one. -/
def reply (entry : Text) : Text := if entry = [] then [] else ((s.page? entry).map s.present).getD []

/-- The answer to a location that is accepted is its page. -/
theorem printedAll_answer {location : Text} (h : location ≠ []) (ha : s.accepts location = true) :
    s.printedAll [answer s.plan location] = s.reply location := by
  rw [reply, if_neg h, page?_eq, if_pos ha]
  cases answer s.plan location <;> simp [printedAll, printed, Outcome.page?]

theorem respond_eq {location : Text} (h : location ≠ []) : s.respond location = s.reply location := by
  by_cases ha : s.accepts location = true
  · have hone : s.outcomes [location] = [answer s.plan location] := by
      rw [← List.perm_singleton]
      exact Pipeline.collect_perm s.plan s.getters s.parsers [location]
    rw [respond, if_pos ha, hone, s.printedAll_answer h ha]
  · rw [respond, if_neg ha, reply, if_neg h, page?_eq, if_neg ha]
    rfl

/-! ## Turns -/

section Turns

variable {input : List UInt8}

theorem interactive_of_ends {error : Option Error} (h : Turn.ofLine (splitLine input).1 = .ends error) :
    s.interactive input = ⟨Prompt.text, error⟩ := by
  rw [interactive]
  split <;> simp_all

theorem interactive_of_next {location : Option Text} (h : Turn.ofLine (splitLine input).1 = .next location) :
    s.interactive input = (s.interactive (splitLine input).2).after (Prompt.text ++ s.respondAll location) := by
  rw [interactive]
  split <;> simp_all

end Turns

/-- A session asks, and what comes of it decides how it goes on. -/
theorem interactive_eq (input : List UInt8) : s.interactive input =
    match (Prompt.read input).answer with
    | .finished => ⟨(Prompt.read input).written, none⟩
    | .unreadable => ⟨(Prompt.read input).written, some .unreadableInput⟩
    | .location location =>
      (s.interactive (Prompt.read input).rest).after ((Prompt.read input).written ++ s.respond location) := by
  fun_induction Prompt.read input with
  | case1 => exact s.interactive_of_ends rfl
  | case2 input hne answer ha =>
    have hline := Prompt.splitLine_fst_ne_nil hne
    cases answer with
    | finished => exact s.interactive_of_ends (by simp [Turn.ofLine, hline, ha])
    | unreadable => exact s.interactive_of_ends (by simp [Turn.ofLine, hline, ha])
    | location location =>
      have hturn : Turn.ofLine (splitLine input).1 = .next (some location) := by simp [Turn.ofLine, hline, ha]
      exact s.interactive_of_next hturn
  | case3 input hne ha reply ih =>
    have hline := Prompt.splitLine_fst_ne_nil hne
    have hturn : Turn.ofLine (splitLine input).1 = .next none := by simp [Turn.ofLine, hline, ha]
    rw [s.interactive_of_next hturn, ih, Prompt.Reply.written_succ]
    cases reply.answer with
    | finished => rfl
    | unreadable => rfl
    | location l => simp [reply, Ending.after, respondAll]

/-! ## The whole dialogue -/

/-- What a session makes of lines. -/
def dialogue (s : Session) : List (List UInt8) → Ending
  | [] => ⟨Prompt.text, none⟩
  | line :: lines =>
    match Turn.ofLine line with
    | .ends error => ⟨Prompt.text, error⟩
    | .next location => (dialogue s lines).after (Prompt.text ++ s.respondAll location)

/-- A session goes through the lines of its input. -/
theorem interactive_eq_dialogue (input : List UInt8) : s.interactive input = s.dialogue (byteLines input) := by
  fun_induction interactive s input with
  | case1 input error h =>
    by_cases hne : input = []
    · subst hne
      cases h
      rfl
    · rw [Prompt.byteLines_eq hne, dialogue, h]
  | case2 input location h ih =>
    have hne : input ≠ [] := by
      rintro rfl
      exact Turn.ne_nil_of_next h rfl
    rw [Prompt.byteLines_eq hne, dialogue, h, ih]

/-- What is left of a line without white space is the wish to stop, nothing, or a location. -/
theorem Turn.ofLine_bytes {line : Text} (h : line ≠ []) : ofLine (Text.bytes line) =
    if Text.trim line = quit then .ends none
    else .next (if Text.trim line = [] then none else some (Text.trim line)) := by
  have hne : Text.bytes line ≠ [] := fun e => h (Text.bytes_injective e)
  rw [ofLine, if_neg hne, Prompt.answer?_bytes]
  by_cases hquit : Text.trim line = quit
  · simp [hquit, quit]
  · by_cases hblank : Text.trim line = []
    · simp [hblank, quit]
    · simp [hquit, hblank]

theorem respondAll_eq (entry : Text) : s.respondAll (if entry = [] then none else some entry) = s.reply entry := by
  by_cases h : entry = []
  · simp [respondAll, reply, h]
  · simp [respondAll, h, s.respond_eq h]

/-- The dialogue about lines of text. -/
theorem dialogue_bytes {ls : List Text} (h : ∀ l ∈ ls, l ≠ []) : s.dialogue (ls.map Text.bytes) =
    ⟨((ls.map Text.trim).takeWhile (· ≠ quit)).flatMap (fun entry => Prompt.text ++ s.reply entry) ++ Prompt.text,
      none⟩ := by
  induction ls with
  | nil => rfl
  | cons l ls ih =>
    obtain ⟨hl, hls⟩ := List.forall_mem_cons.1 h
    rw [List.map_cons, dialogue, Turn.ofLine_bytes hl]
    by_cases hquit : Text.trim l = quit
    · simp [hquit]
    · simp only [if_neg hquit]
      rw [ih hls, respondAll_eq, List.map_cons, List.takeWhile_cons_of_pos (by simpa using hquit)]
      simp [Ending.after]

/-- **The dialogue.** A session writes a prompt for each line up to the wish to stop, behind it what there is to the
location entered, and one prompt more for that wish or for the end of the input. -/
theorem interactive_bytes (input : Text) : s.interactive (Text.bytes input) =
    ⟨(entries input).flatMap (fun entry => Prompt.text ++ s.reply entry) ++ Prompt.text, none⟩ := by
  have hlines : ∀ l ∈ lines input, l ≠ [] := fun l => (Prompt.lined_linesAt _ _).ne_nil
  rw [interactive_eq_dialogue, Prompt.byteLines_bytes, s.dialogue_bytes hlines]
  rfl

/-- With the prompts taken out, what is written are the pages of the locations. -/
theorem flatMap_reply (entries : List Text) :
    entries.flatMap s.reply = ((entries.filter (· ≠ [])).filterMap s.page?).flatMap s.present := by
  induction entries with
  | nil => rfl
  | cons entry entries ih =>
    by_cases he : entry = []
    · simp [he, reply, ih]
    · cases hp : s.page? entry <;> simp [he, reply, ih, hp]

/-- **An interactive session and a batch write the same pages.** A session goes through the lines of its input and
ends without an error. It writes a prompt for each line up to the wish to stop, behind it the page of the location
that was entered, if there is one, and one prompt more for that wish or for the end of the input. With the prompts
taken out this is what a batch of these locations writes with one getter and one parser. The order in which the
workers act makes no difference to either of them. -/
theorem interactive_eq_batch (s : Session) (input : Text) :
    s.interactive (Text.bytes input) =
      ⟨(entries input).flatMap (fun entry => Prompt.text ++ s.reply entry) ++ Prompt.text, none⟩ ∧
    ({ s with getters := 1, parsers := 1 }.batch (locations input)).output = (entries input).flatMap s.reply ∧
    (∀ e, { s with getters := 1, parsers := 1 : Session }.BatchEnds (locations input) e →
      e.output = (entries input).flatMap s.reply) ∧
    ∀ location ∈ locations input, s.accepts location = true → ∀ actions final,
      follow? s.plan (init s.getters s.parsers [location]) actions = some final →
        (∀ a, fire? s.plan final a = none) → s.printedAll final.collected = s.reply location := by
  have hbatch {e : Ending} (he : { s with getters := 1, parsers := 1 : Session }.BatchEnds (locations input) e) :
      e.output = (entries input).flatMap s.reply := by
    rw [he.eq le_rfl le_rfl, flatMap_reply]
    rfl
  refine ⟨s.interactive_bytes input, hbatch (batchEnds_batch _ _), fun e => hbatch, ?_⟩
  intro location hl ha actions final hf hnone
  have hne : location ≠ [] := by simpa using (List.mem_filter.1 hl).2
  have hone : final.collected = [answer s.plan location] :=
    List.perm_singleton.1 (Pipeline.collected_perm_of_follow? hf hnone)
  rw [hone, s.printedAll_answer hne ha]

end Session

end PageHarvest
