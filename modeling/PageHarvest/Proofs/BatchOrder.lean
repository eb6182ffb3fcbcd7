import PageHarvest.Proofs.Delivery
import PageHarvest.Session.Basic

/-!
# The order of a batch

With one getter and one parser the pipeline is a line of places through which the locations go one behind the other
(`State.line`). Only a failure leaves its place: it goes past the parser and overtakes the pages in front of it. It
has no page, so the pages in the line stay the same and in order (`Step.pages_eq`). With what is known of all runs
this tells all that a batch can write, whatever the order of the actions.

- `Pipeline.InOrder.prefix_pages`, `Pipeline.InOrder.pages_eq`: the pages collected on the way and at the end.
- `Session.BatchEnds`: the endings of a batch, over all orders of the actions.
- `Session.batch_accounts_in_order`: there is one ending only, and what it is.
-/

namespace PageHarvest

/-- The page of an outcome, unless it is a failure. -/
def Outcome.page? : Outcome → Option Page
  | .parsed page => some page
  | .failed _ _ => none

namespace Pipeline

variable {plan : Plan} {s s' : State} {locations : List Text}

/-! ## The line -/

/-- The locations in the pipeline, those in front first: what has been collected, then place by place back to the
queue. -/
def State.line (s : State) : List Text :=
  s.collected.map Outcome.location ++ (s.outputs.map Outcome.location ++
    (s.parsers.reduceOption.map Outcome.location ++ (s.bodies.map Prod.fst ++
      (s.getters.reduceOption.map Fetched.location ++ s.queue))))

theorem coe_line (s : State) : (s.line : Multiset Text) = s.locations := by
  simp only [State.line, State.locations, held, ← Multiset.coe_add, Multiset.map_coe]
  abel

/-- The pages of locations. -/
def pages (plan : Plan) (locations : List Text) : List Page := locations.filterMap fun l => (answer plan l).page?

theorem pages_append (plan : Plan) (ls ms : List Text) : pages plan (ls ++ ms) = pages plan ls ++ pages plan ms :=
  List.filterMap_append

/-- A failure has no page. -/
theorem pages_cons_of_failure? {f : Fetched} (hf : f.body = plan.read f.location) {e : Text}
    (h : f.failure? = some e) (ls : List Text) : pages plan (f.location :: ls) = pages plan ls := by
  rw [pages, List.filterMap_cons, answer_of_failure? hf h]
  rfl

/-- There is one getter and one parser. -/
structure State.Single (s : State) : Prop where
  getters : s.getters.length = 1
  parsers : s.parsers.length = 1

theorem single_init {getters parsers : Nat} (hg : getters ≤ 1) (hp : parsers ≤ 1) (locations : List Text) :
    (init getters parsers locations).Single := by
  constructor <;> simp only [init, List.length_replicate] <;> omega

theorem Step.single (hs : s.Single) (h : Step plan s s') : s'.Single where
  getters := by cases h <;> simpa using hs.getters
  parsers := by cases h <;> simpa using hs.parsers

/-- The only worker is the first one. -/
theorem eq_of_getElem?_of_length {α : Type} {ws : List α} {i : Nat} {w : α} (h : ws.length = 1)
    (hi : ws[i]? = some w) : i = 0 ∧ ws = [w] := by
  obtain ⟨v, rfl⟩ := List.length_eq_one_iff.1 h
  cases i with
  | zero => exact ⟨rfl, by simpa using hi⟩
  | succ i => simp at hi

/-- **A step leaves the pages in the line as they are, and in order.** -/
theorem Step.pages_eq (h₁ : s.Single) (hs : Sound plan s) (h : Step plan s s') :
    pages plan s'.line = pages plan s.line := by
  obtain ⟨queue, getters, bodies, parsers, outputs, collected⟩ := s
  cases h with
  | fetch hg hq =>
    obtain ⟨rfl, rfl⟩ := eq_of_getElem?_of_length h₁.getters hg
    cases hq
    rfl
  | @fail i f e hg he hc =>
    have hskip := pages_cons_of_failure? (hs.fetched f (List.mem_of_getElem? hg)) he
    obtain ⟨rfl, rfl⟩ := eq_of_getElem?_of_length h₁.getters hg
    -- the failure goes from behind the bodies to the end of the outputs
    simp [State.line, pages_append, hskip, Outcome.location]
  | hand hg hb hne hc =>
    obtain ⟨rfl, rfl⟩ := eq_of_getElem?_of_length h₁.getters hg
    simp [State.line]
  | parse hp hb =>
    obtain ⟨rfl, rfl⟩ := eq_of_getElem?_of_length h₁.parsers hp
    cases hb
    simp [State.line, parsed, Outcome.location]
  | publish hp hc =>
    obtain ⟨rfl, rfl⟩ := eq_of_getElem?_of_length h₁.parsers hp
    simp [State.line]
  | collect ho =>
    cases ho
    simp [State.line]

/-! ## Runs -/

/-- What holds throughout a run with one worker of each kind. -/
structure InOrder (plan : Plan) (locations : List Text) (s : State) : Prop extends Valid plan locations s where
  single : s.Single
  pages_line : pages plan s.line = pages plan locations

theorem inOrder_init {getters parsers : Nat} (hg : getters ≤ 1) (hp : parsers ≤ 1) (locations : List Text) :
    InOrder plan locations (init getters parsers locations) where
  toValid := valid_init getters parsers locations
  single := single_init hg hp locations
  pages_line := by simp [State.line, init, List.reduceOption]

theorem Step.inOrder (hs : InOrder plan locations s) (h : Step plan s s') : InOrder plan locations s' where
  toValid := h.valid hs.toValid
  single := h.single hs.single
  pages_line := (h.pages_eq hs.single hs.toSound).trans hs.pages_line

/-- The pages collected are those of the locations collected. -/
theorem Sound.pages_collected (hs : Sound plan s) :
    s.collected.filterMap Outcome.page? = pages plan (s.collected.map Outcome.location) := by
  rw [pages, List.filterMap_map]
  refine List.filterMap_congr fun o ho => ?_
  show o.page? = (answer plan o.location).page?
  rw [← hs.collected o ho]

/-- The pages collected on the way are the first ones. -/
theorem InOrder.prefix_pages (hs : InOrder plan locations s) :
    s.collected.filterMap Outcome.page? <+: pages plan locations := by
  rw [hs.pages_collected, ← hs.pages_line, State.line, pages_append]
  exact List.prefix_append _ _

/-- At the end they are all there. -/
theorem InOrder.pages_eq (hs : InOrder plan locations s) (h : ∀ s', ¬ Step plan s s') :
    s.collected.filterMap Outcome.page? = pages plan locations := by
  have hline : s.line.Perm locations := by rw [← Multiset.coe_eq_coe, coe_line, hs.conserved]
  have hcollected : s.collected.length = locations.length := by
    rw [(hs.collected_perm h).length_eq, List.length_map]
  -- all are collected, so nothing else stands in the line
  have hall : s.line = s.collected.map Outcome.location := by
    refine (List.IsPrefix.eq_of_length (List.prefix_append _ _) ?_).symm
    rw [List.length_map, hcollected]
    exact hline.length_eq.symm
  rw [hs.pages_collected, ← hall, hs.pages_line]

end Pipeline

namespace Session

open Pipeline (InOrder follow? fire? init answer)

variable {s : Session} {locations : List Text}

/-! ## Batches -/

/-- The page of a location. There is one if the location passes the check and its body is read and is not empty. -/
def page? (s : Session) (location : Text) : Option Page :=
  match Location.check s.kind location, s.plan.read location with
  | .ok (), .ok body => if body = [] then none else some ⟨location, (Text.bytes body).length, s.plan.parse body⟩
  | _, _ => none

theorem page?_eq (s : Session) (l : Text) :
    s.page? l = if s.accepts l = true then (answer s.plan l).page? else none := by
  rw [page?, accepts, answer]
  cases Location.check s.kind l with
  | error e => rfl
  | ok _ =>
    cases s.plan.read l with
    | error e => rfl
    | ok body => by_cases hb : body = [] <;> simp [hb, Outcome.page?, Except.isOk, Except.toBool]

/-- The pages of a batch are those of the locations that are accepted. -/
theorem filterMap_page? (s : Session) (locations : List Text) :
    locations.filterMap s.page? = Pipeline.pages s.plan (locations.filter s.accepts) := by
  rw [Pipeline.pages, List.filterMap_filter]
  exact List.filterMap_congr fun l _ => s.page?_eq l

theorem printedAll_eq (s : Session) (os : List Outcome) :
    s.printedAll os = (os.filterMap Outcome.page?).flatMap s.present := by
  induction os with
  | nil => rfl
  | cons o os ih =>
    rw [printedAll] at ih
    cases o <;> simp [printedAll, printed, ih, Outcome.page?, List.filterMap_cons]

/-- What is not a page is a failure. -/
theorem length_pages_add_failures (os : List Outcome) :
    (os.filterMap Outcome.page?).length + os.countP isFailure = os.length := by
  induction os with
  | nil => rfl
  | cons o os ih =>
    cases o <;> simp [Outcome.page?, isFailure, List.filterMap_cons, List.countP_cons] <;> omega

/-- How a batch may end: some order of the actions leads to a state in which nothing more can happen, and what has
been collected until then is written and counted. -/
def BatchEnds (s : Session) (locations : List Text) (e : Ending) : Prop :=
  ∃ actions final, follow? s.plan (init s.getters s.parsers (locations.filter s.accepts)) actions = some final ∧
    (∀ a, fire? s.plan final a = none) ∧
    e = s.conclude (locations.countP fun l => !s.accepts l) final.collected

/-- The number of locations without a page. -/
def missing (s : Session) (locations : List Text) : Nat := locations.countP fun l => (s.page? l).isNone

theorem length_pages_add_missing (s : Session) (locations : List Text) :
    (locations.filterMap s.page?).length + s.missing locations = locations.length := by
  rw [missing, List.length_filterMap_eq_countP, List.length_eq_countP_add_countP fun l => (s.page? l).isSome]
  refine congrArg _ (List.countP_congr fun l _ => ?_)
  cases s.page? l <;> simp

/-- What a batch is at its end, if its locations have gone through in order. -/
theorem conclude_eq {final : Pipeline.State} (hs : InOrder s.plan (locations.filter s.accepts) final)
    (h : ∀ a, fire? s.plan final a = none) :
    s.conclude (locations.countP fun l => !s.accepts l) final.collected =
      ⟨(locations.filterMap s.page?).flatMap s.present,
        if s.missing locations = 0 then none else some (.failures (s.missing locations))⟩ := by
  have hrest := Pipeline.forall_not_step_iff.2 h
  have hpages : final.collected.filterMap Outcome.page? = locations.filterMap s.page? := by
    rw [hs.pages_eq hrest, filterMap_page?]
  have hcount :
      (locations.countP fun l => !s.accepts l) + final.collected.countP isFailure = s.missing locations := by
    have haccepted : final.collected.length = locations.countP s.accepts := by
      rw [(hs.collected_perm hrest).length_eq, List.length_map, List.countP_eq_length_filter]
    have hall : locations.length = locations.countP s.accepts + locations.countP fun l => !s.accepts l := by
      simpa using List.length_eq_countP_add_countP s.accepts
    -- on both sides: all locations but those with a page
    have hfound := length_pages_add_failures final.collected
    have hmissing := s.length_pages_add_missing locations
    rw [hpages] at hfound
    omega
  rw [conclude, hcount, printedAll_eq, hpages]

/-- With one worker of each kind the locations of a batch go through in order. -/
theorem inOrder_of_follow? (hg : s.getters ≤ 1) (hp : s.parsers ≤ 1) {actions : List Pipeline.Action}
    {state : Pipeline.State}
    (h : follow? s.plan (init s.getters s.parsers (locations.filter s.accepts)) actions = some state) :
    InOrder s.plan (locations.filter s.accepts) state :=
  Pipeline.follow?_induction Pipeline.Step.inOrder h (Pipeline.inOrder_init hg hp _)

theorem BatchEnds.eq {e : Ending} (hg : s.getters ≤ 1) (hp : s.parsers ≤ 1) (h : s.BatchEnds locations e) :
    e = ⟨(locations.filterMap s.page?).flatMap s.present,
      if s.missing locations = 0 then none else some (.failures (s.missing locations))⟩ := by
  obtain ⟨actions, final, hf, hnone, rfl⟩ := h
  exact conclude_eq (inOrder_of_follow? hg hp hf) hnone

/-- The order that `batch` follows leads to an ending. -/
theorem batchEnds_batch (s : Session) (locations : List Text) : s.BatchEnds locations (s.batch locations) := by
  obtain ⟨actions, hf, hrest⟩ := Pipeline.follow?_run s.plan (init s.getters s.parsers (locations.filter s.accepts))
  exact ⟨actions, _, hf, Pipeline.forall_not_step_iff.1 hrest, rfl⟩

/-- **A batch accounts for every location and keeps their order,** whatever the order of the actions of its getter and
its parser. It has one ending. What it writes are the pages of the locations that have one, in the order given. It
succeeds if all have one, and otherwise reports how many have none. At any time it has written the beginning of that,
and at the latest after five actions for each location it has ended. -/
theorem batch_accounts_in_order (s : Session) (hg : s.getters ≤ 1) (hp : s.parsers ≤ 1) (locations : List Text) :
    (∀ e, s.BatchEnds locations e ↔ e = ⟨(locations.filterMap s.page?).flatMap s.present,
      if s.missing locations = 0 then none else some (.failures (s.missing locations))⟩) ∧
    s.BatchEnds locations (s.batch locations) ∧
    (Error.failures (s.missing locations)).message =
      (toString (s.missing locations)).toList ++ " location(s) could not be scraped".toList ∧
    (locations.filterMap s.page?).length + s.missing locations = locations.length ∧
    ∀ actions state, follow? s.plan (init s.getters s.parsers (locations.filter s.accepts)) actions = some state →
      s.printedAll state.collected <+: (locations.filterMap s.page?).flatMap s.present ∧
        actions.length ≤ 5 * locations.length := by
  have hbatch := s.batchEnds_batch locations
  refine ⟨fun e => ⟨fun h => h.eq hg hp, ?_⟩, hbatch, rfl, s.length_pages_add_missing locations,
    fun actions state h => ⟨?_, ?_⟩⟩
  · rintro rfl
    rwa [← hbatch.eq hg hp]
  · obtain ⟨more, hmore⟩ := (inOrder_of_follow? hg hp h).prefix_pages
    rw [printedAll_eq, filterMap_page?, ← hmore, List.flatMap_append]
    exact List.prefix_append _ _
  · have hfilter := List.length_filter_le s.accepts locations
    have hlength := Pipeline.length_le_of_follow? h
    omega

/-- Four locations: the second one is refused, and the third one fails and overtakes the first one, which comes again
at the end. -/
theorem batch_accounts_in_order_overtaken :
    ∃ s : Session, s.getters ≤ 1 ∧ s.parsers ≤ 1 ∧
      (∃ state, follow? s.plan
        (init s.getters s.parsers ["http://[::1]".toList, "http://[::2]".toList, "http://[::1]".toList])
        [.fetch 0, .hand 0, .parse 0, .fetch 0, .hand 0, .collect] = some state ∧
          state.collected = [.failed "http://[::2]".toList ['?']]) ∧
      ∀ e, s.BatchEnds ["http://[::1]".toList, ['a'], "http://[::2]".toList, "http://[::1]".toList] e ↔
        e = ⟨"http://[::1];http://[::1];".toList, some (.failures 2)⟩ := by
  let plan : Plan := ⟨fun l => if l = "http://[::2]".toList then .error ['?'] else .ok ['x'], fun _ => []⟩
  let s : Session := ⟨.http, plan, fun page => page.location ++ [';'], 1, 1⟩
  have hends := (batch_accounts_in_order s le_rfl le_rfl
    ["http://[::1]".toList, ['a'], "http://[::2]".toList, "http://[::1]".toList]).1
  refine ⟨s, le_rfl, le_rfl, ⟨_, rfl, rfl⟩, fun e => (hends e).trans ?_⟩
  have ha : s.page? "http://[::1]".toList = some ⟨"http://[::1]".toList, 1, []⟩ := by decide +kernel
  have hrefused : s.page? ['a'] = none := by decide +kernel
  have hb : s.page? "http://[::2]".toList = none := by decide +kernel
  rw [missing]
  simp only [List.filterMap_cons, List.filterMap_nil, List.countP_cons, List.countP_nil, ha, hrefused, hb]
  rfl

end Session

end PageHarvest
