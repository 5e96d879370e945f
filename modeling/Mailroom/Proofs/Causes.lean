import Mathlib.Data.List.Infix
import Mailroom.Proofs.Fatal
import Mailroom.Proofs.Nesting

/-!
# The causes of a failure

`failure_chain`: where bodies that have yielded to each other return the failure that they get, to any depth, the failure that comes out
names the mail of all of them, the outermost first, and has the failure of the innermost for its last cause. A submitted mail ends this:
its handle gives the failure, and whoever runs the mail goes on.
-/

namespace Mailroom

variable {σ ν : Type}

/-! ## Chains of failures -/

/-- The failure of a mail that failed because the next one did, and so on down to `e`: the mails by their texts, the outermost first. -/
def chain (ds : List String) (e : Failure) : Failure := ds.foldr .actionFailed e

/-- A chain can be cut anywhere: the lower part is the cause of the upper one. -/
theorem chain_append (ds ds' : List String) (e : Failure) : chain (ds ++ ds') e = chain ds (chain ds' e) := List.foldr_append

/-- A chain and its causes: what is left of it after each mail, down to `e` and the causes of that. -/
theorem chain_cons_sources (ds : List String) (e : Failure) :
    chain ds e :: (chain ds e).sources = ds.tails.map (chain · e) ++ e.sources := by
  induction ds with
  | nil => rfl
  | cons d ds ih =>
    have behind : (chain (d :: ds) e).sources = chain ds e :: (chain ds e).sources := Failure.sources_of_source?_eq_some rfl
    rw [List.tails_cons, List.map_cons, List.cons_append, ← ih, behind]

/-- The text of a failure ends with that of its cause, of which it ends with that of its cause, and so on. -/
theorem Failure.isChain_text (e : Failure) : List.IsChain (fun a b => ∃ before, a.text = before ++ b.text) (e :: e.sources) := by
  induction e with
  | actionFailed d source ih | fatal source ih =>
    rw [sources_of_source?_eq_some rfl]
    exact .cons_cons ⟨_, rfl⟩ ih
  | plain | rejected | closed | actionPanicked | wrongThread =>
    rw [sources_of_source?_eq_none rfl]
    exact .singleton _

/-! ## Failures that are handed on -/

/-- What the mails of these levels are called, the outermost first. -/
def names (levels : List (Level σ ν)) : List String := (levels.map (·.mail.description.display)).reverse

/-- The mail below is named first. -/
theorem names_append (above below : List (Level σ ν)) : names (above ++ below) = names below ++ names above := by
  rw [names, List.map_append, List.reverse_append, names, names]

/-- No mail of these levels was submitted. -/
def Plain (levels : List (Level σ ν)) : Prop := ∀ l ∈ levels, l.mail.handle? = none

namespace World

variable {w x : World σ ν} {t : ThreadId} {e : Failure} {rest : List (Frame σ ν)} {levels : List (Level σ ν)}

/-- Each of these bodies, when it has the failure of its mail for a reply, comes to return that, where `e` is the failure of the innermost
one. -/
def Relays (w : World σ ν) (t : ThreadId) (rest : List (Frame σ ν)) : Failure → List (Level σ ν) → Prop
  | _, [] => True
  | e, l :: levels =>
    (∀ x, w.Reach x →
      x.threads[t]? = some ⟨.run (l.k (.failed (Thread.actionFailed l.mail.description e))), levels.flatMap Level.frames ++ rest⟩ →
      x.Arrives t (·.Ready t) Anyhow
        (·.AtEnd t (.failed (Thread.actionFailed l.mail.description e)) (levels.flatMap Level.frames ++ rest))) ∧
    w.Relays t rest (Thread.actionFailed l.mail.description e) levels

/-- Bodies that hand a failure on still do so later. -/
theorem Relays.reach (h : w.Relays t rest e levels) (reach : w.Reach x) : x.Relays t rest e levels := by
  induction levels generalizing e with
  | nil => trivial
  | cons l levels ih => exact ⟨fun y hy => h.1 y (reach.trans hy), ih h.2⟩

/-- Bodies that return the failure they get at once do so. -/
theorem relays_of_finish (h : ∀ l ∈ levels, ∀ f, l.k (.failed f) = .finish (.failed f)) : w.Relays t rest e levels := by
  induction levels generalizing e with
  | nil => trivial
  | cons l levels ih =>
    obtain ⟨hl, h⟩ := List.forall_mem_cons.mp h
    exact ⟨fun x _ hx => .here ⟨_, hx, hl _ ▸ .ends⟩, ih h⟩

/-- Each mail of these levels is done with, and its action has failed, with the mails above it for causes. -/
def FailedInTurn (w : World σ ν) (e : Failure) (levels : List (Level σ ν)) : Prop :=
  ∀ above l below, levels = above ++ l :: below → w.Consumed l.mail (.failed (chain (names above) e))

/-- Mail that has failed has failed for good. -/
theorem FailedInTurn.reach (h : w.FailedInTurn e levels) (possible : w.Possible) (reach : w.Reach x) : x.FailedInTurn e levels :=
  fun above l below hl => (h above l below hl).reach possible reach

/-- The innermost mail has failed, and then those below it because of that. -/
theorem FailedInTurn.cons {l : Level σ ν} (consumed : w.Consumed l.mail (.failed e))
    (h : w.FailedInTurn (Thread.actionFailed l.mail.description e) levels) : w.FailedInTurn e (l :: levels) := by
  intro above l' below heq
  cases above with
  | nil =>
    cases heq
    exact consumed
  | cons l'' above =>
    obtain ⟨rfl, hlevels⟩ := List.cons.inj heq
    have inner := h above l' below hlevels
    rwa [← List.singleton_append, names_append, chain_append]

/-- The mail below all of them fails with what they are the causes of. -/
theorem FailedInTurn.snoc {l : Level σ ν} (h : w.FailedInTurn e levels) (consumed : w.Consumed l.mail (.failed (chain (names levels) e))) :
    w.FailedInTurn e (levels ++ [l]) := by
  intro above l' below heq
  rcases List.eq_nil_or_concat below with rfl | ⟨below, last, rfl⟩
  · obtain ⟨rfl, hl⟩ := List.append_inj' heq rfl
    cases hl
    exact consumed
  · rw [List.concat_eq_append, ← List.cons_append, ← List.append_assoc] at heq
    exact h above l' below (List.append_inj_left' heq rfl)

/-- A failure goes through levels that hand it on. -/
theorem AtEnd.fails_through (h : w.AtEnd t (.failed e) (levels.flatMap Level.frames ++ rest)) (possible : w.Possible)
    (plain : Plain levels) (relays : w.Relays t rest e levels) : w.Arrives t (·.Ready t) Anyhow fun x =>
      x.AtEnd t (.failed (chain (names levels) e)) rest ∧ x.FailedInTurn e levels := by
  induction levels generalizing w e with
  | nil => exact .here ⟨h, fun above _ _ hl => by cases above <;> cases hl⟩
  | cons l levels ih =>
    obtain ⟨hl, plain⟩ := List.forall_mem_cons.mp plain
    rw [List.flatMap_cons, List.append_assoc] at h
    have heard : w.Arrives t (·.Able t) (Notes none) _ := h.level_plain possible hl
    refine heard.anyhow.trans fun x hx ⟨consumed, heard⟩ => ?_
    refine (relays.1 x hx heard).trans fun y hy hend => ?_
    have reach := hx.trans hy
    refine (ih hend (possible.reach reach) plain (relays.2.reach reach)).imp fun z hz ⟨hend, failed⟩ => ⟨?_, ?_⟩
    · rwa [← List.singleton_append, names_append, chain_append]
    · exact failed.cons (consumed.reach (possible.reach hx) (hy.trans hz))

/-- What becomes of the failure `e` of the innermost of these bodies, where each that gets a failure returns it. -/
structure FailureChain (w : World σ ν) (t : ThreadId) (e : Failure) (levels : List (Level σ ν)) (bottom : Bottom)
    (base : List (Frame σ ν)) : Prop where
  /-- The main loop or the step that runs the first mail ends with the whole chain as a fatal failure. -/
  fatal : ∀ whole g, bottom = .serve whole g → g.handle? = none → Plain levels → w.Relays t (bottom.frames ++ base) e levels →
    w.Arrives t (·.Ready t) Anyhow fun x =>
      x.threads[t]? = some ⟨.abort (.fatal (chain (g.description.display :: names levels) e)), base⟩ ∧
      x.Dooms t base (.fatal (chain (g.description.display :: names levels) e)) ∧
      x.Consumed g (.failed (chain (names levels) e)) ∧ x.FailedInTurn e levels
  /-- A yield or a run of a mail in hand that runs the first mail returns the whole chain. -/
  direct : ∀ g, (∃ patient, bottom = .yield patient g) ∨ bottom = .run g → g.handle? = none → Plain levels →
    w.Relays t (bottom.frames ++ base) e levels →
    w.Arrives t (·.Ready t) Anyhow fun x =>
      x.threads[t]? = some ⟨.answer (.failed (chain (g.description.display :: names levels) e)), base⟩ ∧
      x.Consumed g (.failed (chain (names levels) e)) ∧ x.FailedInTurn e levels
  /-- The chain ends at the innermost mail that was submitted: its handle gives what there is of the chain, and the body that yielded to
  that mail goes on as if all had gone well. -/
  submitted : ∀ above l below i, levels = above ++ l :: below → l.mail.handle? = some i → Plain above →
    w.Relays t (l.frames ++ nested below bottom base) e above →
    w.Arrives t (·.Ready t) Anyhow fun x =>
      x.threads[t]? = some ⟨.run (l.k (yielded l.patient)), nested below bottom base⟩ ∧
      (∃ s, x.task.slots[i]? = some s ∧ s.outcome = some (.error (chain (names (above ++ [l])) e))) ∧ x.FailedInTurn e (above ++ [l])
  /-- If that is the first mail, whoever runs it goes on. -/
  last : ∀ g i, bottom.mail? = some g → g.handle? = some i → Plain levels → w.Relays t (bottom.frames ++ base) e levels →
    w.Arrives t (·.Ready t) Anyhow fun x =>
      x.threads[t]? = some (bottom.resumed base) ∧
      (∃ s, x.task.slots[i]? = some s ∧ s.outcome = some (.error (chain (g.description.display :: names levels) e))) ∧
      x.Consumed g (.failed (chain (names levels) e)) ∧ x.FailedInTurn e levels
  /-- The causes of the fatal failure are the whole chain, what is left of it after each mail, `e` in the end, and the causes of that. -/
  fatal_causes : ∀ ds, (Failure.fatal (chain ds e)).sources = ds.tails.map (chain · e) ++ e.sources
  /-- Those of the chain itself are the same, from the second mail on. -/
  causes : ∀ d ds, (chain (d :: ds) e).sources = ds.tails.map (chain · e) ++ e.sources
  /-- The text of each of these ends with the text of the next. -/
  texts : ∀ ds, List.IsChain (fun a b => ∃ before, a.text = before ++ b.text)
    (.fatal (chain ds e) :: (Failure.fatal (chain ds e)).sources)

end World

/-- The failure that comes out of bodies that run one above the other, to any depth, and hand on the failure of the innermost. -/
theorem failure_chain {w : World σ ν} (possible : w.Possible) {t : ThreadId} {e : Failure} {levels : List (Level σ ν)} {bottom : Bottom}
    {base : List (Frame σ ν)} (fails : w.AtEnd t (.failed e) (nested levels bottom base)) : w.FailureChain t e levels bottom base where
  fatal whole g hbottom plain hlevels relays := by
    refine (fails.fails_through possible hlevels relays).trans fun x reach ⟨hend, failed⟩ => ?_
    have mail : bottom.mail? = some g := by rw [hbottom]; rfl
    have ended : x.Arrives t (·.Able t) (World.Notes none) _ := hend.bottom_plain (possible.reach reach) mail plain
    refine ended.anyhow.imp fun y hy ⟨consumed, hb⟩ => ?_
    rw [hbottom] at hb
    exact ⟨hb, (possible.reach (reach.trans hy)).dooms hb, consumed, failed.reach (possible.reach reach) hy⟩
  direct g hbottom plain hlevels relays := by
    refine (fails.fails_through possible hlevels relays).trans fun x reach ⟨hend, failed⟩ => ?_
    have mail : bottom.mail? = some g := by rcases hbottom with ⟨patient, rfl⟩ | rfl <;> rfl
    have ended : x.Arrives t (·.Able t) (World.Notes none) _ := hend.bottom_plain (possible.reach reach) mail plain
    refine ended.anyhow.imp fun y hy ⟨consumed, hb⟩ => ⟨?_, consumed, failed.reach (possible.reach reach) hy⟩
    rcases hbottom with ⟨patient, rfl⟩ | rfl
    · exact hb
    · exact hb
  submitted above l below i hlevels submitted plain relays := by
    rw [hlevels, nested_append, nested_cons] at fails
    refine (fails.fails_through possible plain relays).trans fun x reach ⟨hend, failed⟩ => ?_
    have ended := (hend.level_submitted (possible.reach reach) submitted).anyhow
    refine ended.imp fun y hy ⟨consumed, hl⟩ => ⟨hl, ?_, ?_⟩
    · have told := consumed.told y .here i submitted
      rwa [names_append]
    · exact (failed.reach (possible.reach reach) hy).snoc consumed
  last g i mail submitted plain relays := by
    refine (fails.fails_through possible plain relays).trans fun x reach ⟨hend, failed⟩ => ?_
    have ended := (hend.bottom_submitted (possible.reach reach) mail submitted).anyhow
    refine ended.imp fun y hy ⟨consumed, hb⟩ => ⟨hb, consumed.told y .here i submitted, consumed, ?_⟩
    exact failed.reach (possible.reach reach) hy
  fatal_causes ds := (Failure.sources_of_source?_eq_some rfl).trans (chain_cons_sources ds e)
  causes _ ds := (Failure.sources_of_source?_eq_some rfl).trans (chain_cons_sources ds e)
  texts ds := (Failure.fatal (chain ds e)).isChain_text

/-- A body that yields, and returns the failure that it gets. -/
def handingOn : Body Unit Nat :=
  .call false (.yield .lowest true) fun
    | .failed f => .finish (.failed f)
    | _ => .finish (.returned 0)

/-- A task whose main loop runs a mail that yields to a mail that fails. -/
def chainedTask : World Unit Nat :=
  .start (.new ⟨2⟩ 0 none (fun _ => .finish (.returned 0)) ())
    [.post ⟨⟨"outer", []⟩, .empty, 0⟩ handingOn fun _ =>
      .post ⟨⟨"inner", []⟩, .empty, 0⟩ (.finish (.failed .closed)) fun _ => .call false .loop fun _ => .finish (.returned 0)]

/-- The main loop fails with both mails by name, the one that yielded first. -/
theorem failure_chain_of_chainedTask : ∃ w : World Unit Nat, chainedTask.moves (List.replicate 14 (.step 0 0)) = some w ∧
    w.Arrives 0 (·.Ready 0) World.Anyhow (·.Dooms 0 [.caller false .loop fun _ => .finish (.returned 0)]
      (.fatal (.actionFailed "outer" (.actionFailed "inner" .closed)))) := by
  have possible : chainedTask.Possible := ⟨⟨2⟩, 0, _, _, (), _, .here⟩
  refine ⟨_, rfl, ?_⟩
  have possible := possible.reach (.of_moves (List.replicate 14 (.step 0 0)) rfl)
  have h := @failure_chain Unit Nat _ possible 0 .closed [⟨⟨1, ⟨"inner", []⟩, none⟩, false, .lowest, true, _⟩]
    (.serve true ⟨0, ⟨"outer", []⟩, none⟩) [.caller false .loop fun _ => .finish (.returned 0)] ⟨_, rfl, .ends⟩
  refine (h.fatal true _ rfl rfl ?_ ?_).imp fun x _ hx => hx.2.1
  · exact List.forall_mem_singleton.mpr rfl
  · exact World.relays_of_finish (List.forall_mem_singleton.mpr fun _ => rfl)

end Mailroom
