import Mathlib.Algebra.Ring.Nat
import Mathlib.Data.List.Basic
import Mathlib.Data.List.Perm.Basic
import Mailroom.Lanes

/-!
# What a push and a take do to the lanes

`Lanes.WellFormed` says that each mail stands in its own lane and that no key is used twice; every operation keeps it. A take
splits the queue: what stands before the mail it takes was passed over (`pop_eq_some`), and that is never mail of the same kind
(`kind_ne_of_passedOver`). A push adds one mail at the end of its lane, as long as the count of keys has not come around
(`Counted`, `toList_push_perm`).
-/

namespace Mailroom

/-! ## Kinds of mail -/

/-- What decides when a mail is taken. -/
inductive Kind where
  | urgent
  | plain (deferrable : Bool) (priority : Priority)
deriving DecidableEq

/-- The kind of a mail. Whether urgent mail is deferrable, and with what priority it was sent, makes no difference. -/
def Envelope.kind (m : Envelope) : Kind := if m.isUrgent then .urgent else .plain m.isDeferrable m.priority

/-- Only urgent mail is of the urgent kind. -/
theorem Envelope.kind_eq_urgent_iff (m : Envelope) : m.kind = .urgent ↔ m.isUrgent = true := by
  unfold kind
  split <;> simp_all

/-- Mail of one kind is urgent or not, and open to a yield or not, together. -/
theorem Envelope.isEligible_of_kind_eq {m m' : Envelope} (h : m.kind = m'.kind) (p : Priority) :
    m.isEligible p = m'.isEligible p := by
  unfold Envelope.kind at h
  unfold Envelope.isEligible
  by_cases hu : m.isUrgent = true <;> by_cases hu' : m'.isUrgent = true <;> simp_all

namespace Lanes

variable {α : Type}

/-! ## Lanes in order -/

/-- Each mail stands in its own lane, and no key is used twice. -/
structure WellFormed (l : Lanes α) : Prop where
  urgent : ∀ m ∈ l.urgent, m.isUrgent = true
  normal : ∀ e ∈ l.normal, e.2.isUrgent = false
  keys : (l.normal.map (·.1)).Nodup

/-- Empty lanes are in order. -/
theorem wellFormed_empty : (empty : Lanes α).WellFormed :=
  ⟨by simp [empty], by simp [empty], by simp [empty]⟩

theorem WellFormed.cleared {l : Lanes α} (_ : l.WellFormed) : l.cleared.WellFormed :=
  ⟨by simp [Lanes.cleared], by simp [Lanes.cleared], by simp [Lanes.cleared]⟩

/-- To unlink a key moves nothing else. -/
theorem unlink_sublist (key : UInt64) (lane : List (UInt64 × Mail α)) : List.Sublist (unlink key lane) lane :=
  List.eraseP_sublist

/-- Unlinking a key that no mail has changes nothing. -/
theorem unlink_of_fresh {key : UInt64} {lane : List (UInt64 × Mail α)} (h : ∀ e ∈ lane, e.1 ≠ key) : unlink key lane = lane :=
  List.eraseP_of_forall_not fun e he => by simpa using h e he

/-- After a key was unlinked no mail has it. -/
theorem key_ne_of_mem_unlink {key : UInt64} {lane : List (UInt64 × Mail α)} (h : (lane.map (·.1)).Nodup) :
    ∀ e ∈ unlink key lane, e.1 ≠ key := by
  intro e he
  by_cases hk : ∃ x ∈ lane, (x.1 == key) = true
  · obtain ⟨x, hx, hxk⟩ := hk
    obtain ⟨y, pre, post, hpre, hy, hl, hu⟩ := List.exists_of_eraseP (p := fun e : UInt64 × Mail α => e.1 == key) hx hxk
    have hy' : y.1 = key := by simpa using hy
    change unlink key lane = pre ++ post at hu
    rw [hu] at he
    rw [hl, List.map_append, List.map_cons, List.nodup_append] at h
    obtain ⟨-, hpost, hdisj⟩ := h
    rcases List.mem_append.mp he with he | he
    · simpa using hpre e he
    · intro hek
      exact (List.nodup_cons.mp hpost).1 (by rw [hy', ← hek]; exact List.mem_map_of_mem he)
  · intro hek
    exact hk ⟨e, (unlink_sublist key lane).subset he, by simpa using hek⟩

/-- A push keeps the lanes in order; the mail that had the next key, if any did, is gone then. -/
theorem WellFormed.push {l : Lanes α} (h : l.WellFormed) (m : Mail α) : (l.push m).WellFormed := by
  unfold Lanes.push
  by_cases hm : m.isUrgent = true
  · rw [if_pos hm]
    refine ⟨fun x hx => ?_, h.normal, h.keys⟩
    rcases List.mem_append.mp hx with hx | hx
    · exact h.urgent x hx
    · rw [List.mem_singleton.mp hx]
      exact hm
  · rw [if_neg hm]
    refine ⟨h.urgent, fun e he => ?_, ?_⟩
    · rcases List.mem_append.mp he with he | he
      · exact h.normal e ((unlink_sublist _ _).subset he)
      · rw [List.mem_singleton.mp he]
        simpa using hm
    · simp only [link, List.map_append, List.map_cons, List.map_nil]
      refine List.nodup_append.mpr ⟨((unlink_sublist _ _).map _).nodup h.keys, by simp, ?_⟩
      intro k hk k' hk'
      obtain ⟨e, he, rfl⟩ := List.mem_map.mp hk
      rw [List.mem_singleton.mp hk']
      exact key_ne_of_mem_unlink h.keys e he

/-! ## Taking -/

/-- The first mail of a lane that a test admits stands first under its key, so the look-up by that key finds it and unlinking the
key takes it out. -/
theorem unlink_of_split {pre post : List (UInt64 × Mail α)} {e : UInt64 × Mail α}
    (h : ((pre ++ e :: post).map (·.1)).Nodup) :
    (pre ++ e :: post).find? (fun x => x.1 == e.1) = some e ∧ unlink e.1 (pre ++ e :: post) = pre ++ post := by
  have hpre : ∀ x ∈ pre, ¬(x.1 == e.1) = true := by
    intro x hx hk
    rw [List.map_append, List.map_cons, List.nodup_append] at h
    exact h.2.2 x.1 (List.mem_map_of_mem hx) e.1 (by simp) (by simpa using hk)
  refine ⟨List.find?_eq_some_iff_append.mpr ⟨by simp, pre, post, rfl, by simpa using hpre⟩, ?_⟩
  unfold unlink
  rw [List.eraseP_append_right _ hpre, List.eraseP_cons_of_pos (by simp)]

/-- A yield finds no mail to take if no urgent mail is queued and none of the normal lane is open to it. -/
theorem popEligible_eq_none {l : Lanes α} {p : Priority} (hu : l.urgent = [])
    (hn : ∀ e ∈ l.normal, ¬e.2.isEligible p = true) : l.popEligible p = none := by
  have hf : l.normal.find? (fun entry => entry.2.isEligible p) = none := List.find?_eq_none.mpr hn
  simp [popEligible, hu, hf]

/-- A yield takes the first mail of the normal lane that is open to it, if no urgent mail is queued. -/
theorem popEligible_eq_some {l : Lanes α} {p : Priority} {pre post : List (UInt64 × Mail α)} {e : UInt64 × Mail α}
    (keys : (l.normal.map (·.1)).Nodup) (hu : l.urgent = []) (hn : l.normal = pre ++ e :: post)
    (hpre : ∀ x ∈ pre, ¬x.2.isEligible p = true) (he : e.2.isEligible p = true) :
    l.popEligible p = some (e.2, { l with normal := pre ++ post }) := by
  have hf : (pre ++ e :: post).find? (fun entry => entry.2.isEligible p) = some e :=
    List.find?_eq_some_iff_append.mpr ⟨he, pre, post, rfl, by simpa using hpre⟩
  have hk := unlink_of_split (hn ▸ keys)
  simp [popEligible, hu, hn, hf, hk.1, hk.2]

/-- The mail `x` may be passed over by a take that takes `m`: neither is urgent, and the take is a yield that `m` is open to and
`x` is not. -/
def PassedOver (choice : Choice) (m x : Mail α) : Prop :=
  m.isUrgent = false ∧ x.isUrgent = false ∧ ∃ p, choice = .eligible p ∧ m.isEligible p = true ∧ x.isEligible p = false

/-- Mail that is passed over is of another kind. -/
theorem kind_ne_of_passedOver {choice : Choice} {m x : Mail α} (h : PassedOver choice m x) : x.kind ≠ m.kind := by
  obtain ⟨-, -, p, -, hm, hx⟩ := h
  intro hk
  rw [Envelope.isEligible_of_kind_eq hk p, hm] at hx
  simp at hx

/-- How a take splits the lanes into what it passed over, the mail it took, and the rest. -/
structure Split (l : Lanes α) (choice : Choice) (m : Mail α) (l' : Lanes α) : Prop where
  keys : l'.nextKey = l.nextKey
  lanes : (∃ rest, l.urgent = m :: rest ∧ l'.urgent = rest ∧ l'.normal = l.normal) ∨
    (l.urgent = [] ∧ l'.urgent = [] ∧ ∃ pre key post, l.normal = pre ++ (key, m) :: post ∧ l'.normal = pre ++ post ∧
      ((choice = .oldest ∧ pre = []) ∨
        ∃ p, choice = .eligible p ∧ m.isEligible p = true ∧ ∀ x ∈ pre, x.2.isEligible p = false))

/-- What a take takes, it takes out of the lanes, and what it does not take keeps its place. -/
theorem pop_eq_some {l : Lanes α} {choice : Choice} {m : Mail α} {l' : Lanes α} (h : l.WellFormed)
    (hp : l.pop choice = some (m, l')) : l.Split choice m l' := by
  cases hu : l.urgent with
  | cons m' rest =>
    have : m' = m ∧ { l with urgent := rest } = l' := by
      cases choice <;> simpa [pop, popOldest, popEligible, hu] using hp
    obtain ⟨rfl, rfl⟩ := this
    exact ⟨rfl, .inl ⟨rest, hu, rfl, rfl⟩⟩
  | nil =>
    cases choice with
    | oldest =>
      cases hn : l.normal with
      | nil => simp [pop, popOldest, hu, hn] at hp
      | cons e post =>
        simp only [pop, popOldest, hu, hn, Option.some.injEq, Prod.mk.injEq] at hp
        obtain ⟨rfl, rfl⟩ := hp
        exact ⟨rfl, .inr ⟨hu, rfl, [], e.1, post, hn, rfl, .inl ⟨rfl, rfl⟩⟩⟩
    | eligible p =>
      by_cases hex : ∃ e ∈ l.normal, e.2.isEligible p = true
      · have hsome : (l.normal.find? fun entry => entry.2.isEligible p).isSome := by
          simpa [List.find?_isSome] using hex
        obtain ⟨e, hf⟩ := Option.isSome_iff_exists.mp hsome
        obtain ⟨he, pre, post, hn, hpre⟩ := List.find?_eq_some_iff_append.mp hf
        have hpre' : ∀ x ∈ pre, x.2.isEligible p = false := fun x hx => by simpa using hpre x hx
        have key := popEligible_eq_some h.keys hu hn (fun x hx => by simp [hpre' x hx]) he
        simp only [pop, key, Option.some.injEq, Prod.mk.injEq] at hp
        obtain ⟨rfl, rfl⟩ := hp
        exact ⟨rfl, .inr ⟨hu, hu, pre, e.1, post, hn, rfl, .inr ⟨p, rfl, he, hpre'⟩⟩⟩
      · have key := popEligible_eq_none hu fun e he hel => hex ⟨e, he, hel⟩
        simp [pop, key] at hp

namespace Split

variable {l l' : Lanes α} {choice : Choice} {m : Mail α}

/-- In the whole queue, what stands before the taken mail was passed over. -/
theorem toList (s : l.Split choice m l') (h : l.WellFormed) : ∃ before after, l.toList = before ++ m :: after ∧
    l'.toList = before ++ after ∧ ∀ x ∈ before, PassedOver choice m x := by
  rcases s.lanes with ⟨rest, hu, hu', hn'⟩ | ⟨hu, hu', pre, key, post, hn, hn', hc⟩
  · exact ⟨[], rest ++ l.normal.map (·.2), by simp [Lanes.toList, hu], by simp [Lanes.toList, hu', hn'], by simp⟩
  · refine ⟨pre.map (·.2), post.map (·.2), by simp [Lanes.toList, hu, hn], by simp [Lanes.toList, hu', hn'], ?_⟩
    intro x hx
    rcases hc with ⟨-, rfl⟩ | ⟨p, hc, hm, hpre⟩
    · simp at hx
    · obtain ⟨e, he, rfl⟩ := List.mem_map.mp hx
      have hmem : (key, m) ∈ l.normal := by simp [hn]
      exact ⟨h.normal _ hmem, h.normal e (by simp [hn, he]), p, hc, hm, hpre e he⟩

/-- What a take leaves is in order. -/
theorem wellFormed (s : l.Split choice m l') (h : l.WellFormed) : l'.WellFormed := by
  rcases s.lanes with ⟨rest, hu, hu', hn'⟩ | ⟨hu, hu', pre, key, post, hn, hn', -⟩
  · exact ⟨fun x hx => h.urgent x (by rw [hu]; exact List.mem_cons_of_mem _ (hu' ▸ hx)), hn' ▸ h.normal, hn' ▸ h.keys⟩
  · have hsub : List.Sublist l'.normal l.normal := by
      rw [hn, hn']
      exact (List.sublist_cons_self _ _).append_left pre
    exact ⟨by simp [hu'], fun e he => h.normal e (hsub.subset he), (hsub.map _).nodup h.keys⟩

end Split

/-- Where there is no oldest mail there is none. -/
theorem toList_of_pop_oldest {l : Lanes α} (h : l.pop .oldest = none) : l.toList = [] := by
  obtain ⟨urgent, normal, key⟩ := l
  cases urgent with
  | cons m rest => cases h
  | nil =>
    cases normal with
    | cons entry rest => cases h
    | nil => rfl

/-- A take that finds nothing finds no urgent mail, and none that it may take. -/
theorem pop_eq_none_iff {l : Lanes α} {choice : Choice} (h : l.WellFormed) : l.pop choice = none ↔
    l.urgent = [] ∧ ∀ e ∈ l.normal, ∃ p, choice = .eligible p ∧ e.2.isEligible p = false := by
  cases hu : l.urgent with
  | cons m rest => cases choice <;> simp [pop, popOldest, popEligible, hu]
  | nil =>
    cases choice with
    | oldest =>
      cases hn : l.normal with
      | nil => simp [pop, popOldest, hu, hn]
      | cons e post =>
        simp only [pop, popOldest, hu, hn, reduceCtorEq, true_and, false_and, exists_false, imp_false, false_iff]
        exact fun hall => hall e List.mem_cons_self
    | eligible p =>
      constructor
      · intro hp
        refine ⟨rfl, fun e he => ⟨p, rfl, ?_⟩⟩
        by_contra hel
        have hsome : (l.normal.find? fun entry => entry.2.isEligible p).isSome := by
          simpa [List.find?_isSome] using ⟨e.1, e.2, he, by simpa using hel⟩
        obtain ⟨f, hf⟩ := Option.isSome_iff_exists.mp hsome
        obtain ⟨hfe, pre, post, hn, hpre⟩ := List.find?_eq_some_iff_append.mp hf
        have key := popEligible_eq_some h.keys hu hn (fun x hx => by simpa using hpre x hx) hfe
        simp [pop, key] at hp
      · rintro ⟨-, hn⟩
        exact popEligible_eq_none hu fun e he => by
          obtain ⟨q, hq, hel⟩ := hn e he
          cases hq
          simp [hel]

/-! ## Pushing -/

/-- The urgent lane after a push. -/
theorem urgent_push (l : Lanes α) (m : Mail α) :
    (l.push m).urgent = if m.isUrgent then l.urgent ++ [m] else l.urgent := by
  unfold push
  split <;> rfl

/-- Mail that was pushed is queued. -/
theorem mem_push (l : Lanes α) (m : Mail α) : m ∈ (l.push m).toList := by
  unfold push
  split <;> simp [toList, link]

/-- A push displaces at most the mail under the next key, and adds the mail. -/
theorem toList_push_perm {l : Lanes α} (h : l.WellFormed) (m : Mail α) :
    ((l.push m).toList ++ (l.displaced m).toList).Perm (m :: l.toList) := by
  by_cases hm : m.isUrgent = true
  · simp only [push, displaced, if_pos hm, toList, Option.toList_none, List.append_nil, List.append_assoc,
      List.singleton_append]
    exact List.perm_middle
  · simp only [push, displaced, if_neg hm, toList, link]
    cases hf : l.normal.find? fun entry => entry.1 == l.nextKey with
    | none =>
      have hfresh : ∀ e ∈ l.normal, e.1 ≠ l.nextKey := fun e he => by simpa using List.find?_eq_none.mp hf e he
      rw [unlink_of_fresh hfresh]
      simp only [List.map_append, List.map_cons, List.map_nil, Option.map_none, Option.toList_none, List.append_nil,
        ← List.append_assoc]
      exact List.perm_append_singleton _ _
    | some e =>
      obtain ⟨hk, pre, post, hn, -⟩ := List.find?_eq_some_iff_append.mp hf
      have hk' : e.1 = l.nextKey := by simpa using hk
      have hu : unlink l.nextKey l.normal = pre ++ post := by
        rw [hn, ← hk']
        exact (unlink_of_split (hn ▸ h.keys)).2
      rw [hu, hn]
      classical
      refine List.perm_iff_count.mpr fun x => ?_
      simp only [List.map_append, List.map_cons, List.map_nil, Option.map_some, Option.toList_some, List.count_append,
        List.count_cons, List.count_nil]
      omega

/-- So far `n` mails were put into the normal lane, and the keys were counted up from the first. -/
structure Counted (l : Lanes α) (n : Nat) : Prop where
  next : l.nextKey = UInt64.ofNat n
  keys : ∀ e ∈ l.normal, ∃ k < n, e.1 = UInt64.ofNat k

/-- No mail was put into empty lanes. -/
theorem counted_empty : (empty : Lanes α).Counted 0 := ⟨rfl, by simp [empty]⟩

/-- The count of keys goes on after the lanes were cleared. -/
theorem Counted.cleared {l : Lanes α} {n : Nat} (h : l.Counted n) : l.cleared.Counted n := ⟨h.next, by simp [Lanes.cleared]⟩

/-- As long as fewer than `2 ^ 64` mails were put into the normal lane, none of them has the next key. -/
theorem Counted.fresh {l : Lanes α} {n : Nat} (h : l.Counted n) (hn : n < 2 ^ 64) : ∀ e ∈ l.normal, e.1 ≠ l.nextKey := by
  intro e he hk
  obtain ⟨k, hkn, hek⟩ := h.keys e he
  have hmod : k % 2 ^ 64 = n % 2 ^ 64 := by
    simpa using congrArg UInt64.toNat (hek.symm.trans (hk.trans h.next))
  omega

/-- The normal lane after a push of mail that is not urgent. -/
theorem Counted.normal_push {l : Lanes α} {n : Nat} (h : l.Counted n) (hn : n < 2 ^ 64) {m : Mail α}
    (hm : m.isUrgent = false) : (l.push m).normal = l.normal ++ [(l.nextKey, m)] := by
  simp [push, hm, link, unlink_of_fresh (h.fresh hn)]

/-- Nothing is displaced before the count of keys has come around. -/
theorem Counted.displaced {l : Lanes α} {n : Nat} (h : l.Counted n) (hn : n < 2 ^ 64) (m : Mail α) : l.displaced m = none := by
  unfold Lanes.displaced
  split
  · rfl
  · rw [List.find?_eq_none.mpr fun e he => by simpa using h.fresh hn e he]
    rfl

/-- Urgent mail takes no key. -/
theorem Counted.push_urgent {l : Lanes α} {n : Nat} (h : l.Counted n) {m : Mail α} (hm : m.isUrgent = true) :
    (l.push m).Counted n := by
  simp only [push, hm, if_true]
  exact ⟨h.next, h.keys⟩

/-- Mail that is not urgent takes the next key. -/
theorem Counted.push_plain {l : Lanes α} {n : Nat} (h : l.Counted n) {m : Mail α} (hm : m.isUrgent = false) :
    (l.push m).Counted (n + 1) := by
  refine ⟨by simp [push, hm, h.next], fun e he => ?_⟩
  simp only [push, hm, Bool.false_eq_true, if_false, link] at he
  rcases List.mem_append.mp he with he | he
  · obtain ⟨k, hk, hek⟩ := h.keys e ((unlink_sublist _ _).subset he)
    exact ⟨k, by omega, hek⟩
  · rw [List.mem_singleton.mp he]
    exact ⟨n, by omega, h.next⟩

/-- A take gives no key back. -/
theorem Split.counted {l l' : Lanes α} {choice : Choice} {m : Mail α} (s : l.Split choice m l') {n : Nat}
    (h : l.Counted n) : l'.Counted n := by
  refine ⟨s.keys.trans h.next, fun e he => h.keys e ?_⟩
  rcases s.lanes with ⟨rest, -, -, hn'⟩ | ⟨-, -, pre, key, post, hn, hn', -⟩
  · exact hn' ▸ he
  · rw [hn'] at he
    rw [hn]
    rcases List.mem_append.mp he with he | he
    · exact List.mem_append_left _ he
    · exact List.mem_append_right _ (List.mem_cons_of_mem _ he)

end Lanes

end Mailroom
