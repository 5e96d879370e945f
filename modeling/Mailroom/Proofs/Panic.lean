import Mailroom.Proofs.Fatal
import Mailroom.Proofs.Nesting

/-!
# Where a panic stops

`panic_stops`: a panic in a body that other bodies have yielded to goes out until it meets a submitted mail or a guarded call, and if it
meets none it comes to whoever runs the first body. The main loop and a step take it for a fatal failure, and everybody else lets it
through.
-/

namespace Mailroom

variable {σ ν : Type}

/-- Nothing in these levels stops a panic. -/
def Bare (levels : List (Level σ ν)) : Prop := ∀ l ∈ levels, l.mail.handle? = none ∧ l.guarded = false

namespace World

variable {w : World σ ν} {t : ThreadId} {p : Payload} {h? : Option HandleId} {rest : List (Frame σ ν)} {levels : List (Level σ ν)}

/-- A panic goes through levels where nothing stops it, and the mail of all of them is done with. -/
theorem AtEnd.panics_through (h : w.AtEnd t (.panicked p) (levels.flatMap Level.frames ++ rest)) (possible : w.Possible)
    (bare : Bare levels) : w.Arrives t (·.Able t) (Notes h?) fun x =>
      x.AtEnd t (.panicked p) rest ∧ ∀ l ∈ levels, x.Consumed l.mail (.panicked p) := by
  induction levels generalizing w with
  | nil => exact .here ⟨h, nofun⟩
  | cons l levels ih =>
    obtain ⟨⟨plain, unguarded⟩, bare⟩ := List.forall_mem_cons.mp bare
    rw [List.flatMap_cons, List.append_assoc] at h
    refine (h.level_plain possible plain).trans ?_
    rintro x reach ⟨consumed, hx⟩
    rw [Level.heard, unguarded] at hx
    refine (ih ⟨_, hx, .panics p rfl⟩ (possible.reach reach) bare).imp ?_
    rintro y hy ⟨hend, gone⟩
    exact ⟨hend, List.forall_mem_cons.mpr ⟨consumed.reach (possible.reach reach) hy, gone⟩⟩

/-- What becomes of a panic of the innermost of these bodies. Nobody waits for another thread on the way, and nothing that threads share
changes, but for the outcome of the mail that catches the panic. -/
structure PanicStops (w : World σ ν) (t : ThreadId) (p : Payload) (levels : List (Level σ ν)) (bottom : Bottom)
    (base : List (Frame σ ν)) : Prop where
  /-- A submitted mail catches it, and gives it to its handle; the body that yielded to that mail goes on as if all had gone well. -/
  submitted : ∀ above l below i, levels = above ++ l :: below → Bare above → l.mail.handle? = some i →
    w.Arrives t (·.Able t) (Notes (some i)) fun x =>
      x.threads[t]? = some ⟨.run (l.k (yielded l.patient)), nested below bottom base⟩ ∧
      (∃ s, x.task.slots[i]? = some s ∧ s.outcome = some (.error (.actionPanicked l.mail.description.display p.message))) ∧
      ∀ l' ∈ above ++ [l], x.Consumed l'.mail (.panicked p)
  /-- A body that guards its yield catches it. -/
  guarded : ∀ above l below, levels = above ++ l :: below → Bare above → l.mail.handle? = none → l.guarded = true →
    w.Arrives t (·.Able t) (Notes none) fun x =>
      x.threads[t]? = some ⟨.run (l.k (.panicked p)), nested below bottom base⟩ ∧ ∀ l' ∈ above ++ [l], x.Consumed l'.mail (.panicked p)
  /-- A submitted mail at the bottom catches it; whoever runs that goes on. -/
  last : ∀ g i, Bare levels → bottom.mail? = some g → g.handle? = some i →
    w.Arrives t (·.Able t) (Notes (some i)) fun x =>
      x.threads[t]? = some (bottom.resumed base) ∧
      (∃ s, x.task.slots[i]? = some s ∧ s.outcome = some (.error (.actionPanicked g.description.display p.message))) ∧
      x.Consumed g (.panicked p) ∧ ∀ l ∈ levels, x.Consumed l.mail (.panicked p)
  /-- If none of these is in the way the panic comes to the bottom. Where it ends the task, the handler is called with the failure, and
  that is what the call of the main loop or of the step returns. -/
  reaches : Bare levels → (∀ g ∈ bottom.mail?, g.handle? = none) →
    w.Arrives t (·.Able t) (Notes none) fun x =>
      x.threads[t]? = some (bottom.panicked base p) ∧ (∀ g ∈ bottom.mail?, x.Consumed g (.panicked p)) ∧
      (∀ l ∈ levels, x.Consumed l.mail (.panicked p)) ∧ ∀ e, bottom.panicked base p = ⟨.abort e, base⟩ → x.Dooms t base e

end World

/-- Where a panic stops that comes from the innermost of the bodies that run one above the other, to any depth. -/
theorem panic_stops {w : World σ ν} (possible : w.Possible) {t : ThreadId} {p : Payload} {levels : List (Level σ ν)} {bottom : Bottom}
    {base : List (Frame σ ν)} (panics : w.AtEnd t (.panicked p) (nested levels bottom base)) :
    w.PanicStops t p levels bottom base where
  submitted above l below i hlevels bare submitted := by
    rw [hlevels, nested_append, nested_cons] at panics
    refine (panics.panics_through possible bare).trans ?_
    rintro x reach ⟨hend, gone⟩
    refine (hend.level_submitted (possible.reach reach) submitted).imp ?_
    rintro y hy ⟨consumed, hl⟩
    refine ⟨hl, consumed.told y .here i submitted, ?_⟩
    refine List.forall_mem_append.mpr ⟨fun l' hl' => (gone l' hl').reach (possible.reach reach) hy, ?_⟩
    exact List.forall_mem_singleton.mpr consumed
  guarded above l below hlevels bare plain guarded := by
    rw [hlevels, nested_append, nested_cons] at panics
    refine (panics.panics_through possible bare).trans ?_
    rintro x reach ⟨hend, gone⟩
    refine (hend.level_plain (possible.reach reach) plain).imp ?_
    rintro y hy ⟨consumed, hl⟩
    refine ⟨?_, ?_⟩
    · rw [hl, Level.heard, guarded]
      rfl
    · refine List.forall_mem_append.mpr ⟨fun l' hl' => (gone l' hl').reach (possible.reach reach) hy, ?_⟩
      exact List.forall_mem_singleton.mpr consumed
  last g i bare mail submitted := by
    refine (World.AtEnd.panics_through panics possible bare).trans ?_
    rintro x reach ⟨hend, gone⟩
    refine (hend.bottom_submitted (possible.reach reach) mail submitted).imp ?_
    rintro y hy ⟨consumed, hb⟩
    exact ⟨hb, consumed.told y .here i submitted, consumed, fun l hl => (gone l hl).reach (possible.reach reach) hy⟩
  reaches bare plain := by
    refine (World.AtEnd.panics_through panics possible bare).trans ?_
    rintro x reach ⟨hend, gone⟩
    refine (hend.bottom_struck (possible.reach reach) plain).imp ?_
    rintro y hy ⟨consumed, hb⟩
    refine ⟨hb, consumed, fun l hl => (gone l hl).reach (possible.reach reach) hy, fun e he => ?_⟩
    exact (possible.reach (reach.trans hy)).dooms (hb.trans (congrArg some he))

/-- A task whose main loop runs a mail that yields to a submitted mail, which yields to a mail that panics. -/
def panickingTask : World Unit Nat :=
  .start (.new ⟨3⟩ 0 none (fun _ => .finish (.returned 0)) ())
    [.post ⟨⟨"outer", []⟩, .empty, 0⟩ (.call false (.yield .lowest true) fun _ => .finish (.returned 1)) fun _ =>
      .submit ⟨"middle", []⟩ 0 (.call false (.yield .lowest true) fun _ => .finish (.returned 2)) fun _ =>
        .post ⟨⟨"inner", []⟩, .empty, 0⟩ (.finish (.panicked (.text "boom"))) fun _ =>
          .call false .loop fun _ => .finish (.returned 0)]

theorem panic_stops_of_panickingTask : ∃ w : World Unit Nat, panickingTask.moves (List.replicate 20 (.step 0 0)) = some w ∧
    w.PanicStops 0 (.text "boom")
      [⟨⟨2, ⟨"inner", []⟩, none⟩, false, .lowest, true, fun _ => .finish (.returned 2)⟩,
        ⟨⟨1, ⟨"middle", []⟩, some 0⟩, false, .lowest, true, fun _ => .finish (.returned 1)⟩]
      (.serve true ⟨0, ⟨"outer", []⟩, none⟩) [.caller false .loop fun _ => .finish (.returned 0)] := by
  have possible : panickingTask.Possible := ⟨⟨3⟩, 0, _, _, (), _, .here⟩
  exact ⟨_, rfl, panic_stops (possible.reach (.of_moves (List.replicate 20 (.step 0 0)) rfl)) ⟨_, rfl, .ends⟩⟩

end Mailroom
