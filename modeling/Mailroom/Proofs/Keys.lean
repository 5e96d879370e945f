import Mailroom.Proofs.Reference

/-!
# Keys across the largest word

Keys of the normal lane are counted up in words and start over after the largest one, so the order of the keys says nothing about the
order of the mail. What carries the proof is the place of a mail among all that were ever put into the normal lane (`Roll`), a number
that is never used again: the key is the first key plus that place, taken as a word (`keyOf`), and two places have different keys as long
as they are less than `2 ^ 64` apart (`keyOf_ne`). So if no mail stays in the lane while `2 ^ 64` more are put into it (`Roll.Timely`),
whatever the first key was, lanes with keys and lanes with places hand out the same mail (`Follows.changes`), and at every point the keys
do what they are for (`KeysSound`). The main statement is `keys_sound`.
-/

namespace Mailroom

variable {α : Type}

/-! ## Changes of the lanes -/

/-- What is done to the lanes. -/
inductive Lanes.Change (α : Type) where
  | push (m : Mail α)
  | pop (choice : Choice)
  | drain

namespace Lanes

/-- The lanes after a change, and the mail that it hands out. -/
def change (l : Lanes α) : Change α → Lanes α × List (Mail α)
  | .push m => (l.push m, [])
  | .pop choice =>
    match l.pop choice with
    | some (m, rest) => (rest, [m])
    | none => (l, [])
  | .drain => (l.cleared, l.toList)

/-- Changes in a row, with what each hands out. -/
def changes (l : Lanes α) : List (Change α) → Lanes α × List (List (Mail α))
  | [] => (l, [])
  | c :: cs =>
    let next := l.change c
    let final := changes next.1 cs
    (final.1, next.2 :: final.2)

end Lanes

/-! ## Lanes with places in place of keys -/

/-- The lanes with a roll of all mail that was ever put into the normal lane. A mail of that lane goes by its place on the roll. -/
structure Roll (α : Type) where
  pushed : List (Mail α)
  urgent : List (Mail α)
  normal : List (Nat × Mail α)

/-- A take of this kind may take this mail of the normal lane. -/
def Choice.mayTake : Choice → Envelope → Bool
  | oldest, _ => true
  | eligible p, m => m.isEligible p

namespace Roll

/-- Nothing was put into the normal lane yet. -/
def new (urgent : List (Mail α)) : Roll α := ⟨[], urgent, []⟩

/-- The roll after a change, and the mail that it hands out. -/
def change (r : Roll α) : Lanes.Change α → Roll α × List (Mail α)
  | .push m =>
    if m.isUrgent then ({ r with urgent := r.urgent ++ [m] }, [])
    else ({ r with pushed := r.pushed ++ [m], normal := r.normal ++ [(r.pushed.length, m)] }, [])
  | .pop choice =>
    match r.urgent with
    | m :: rest => ({ r with urgent := rest }, [m])
    | [] =>
      match Reference.pickFirst (fun e => choice.mayTake e.2.toEnvelope) r.normal with
      | some (e, rest) => ({ r with normal := rest }, [e.2])
      | none => (r, [])
  | .drain => ({ r with urgent := [], normal := [] }, r.urgent ++ r.normal.map (·.2))

/-- Changes in a row, with what each hands out. -/
def changes (r : Roll α) : List (Lanes.Change α) → Roll α × List (List (Mail α))
  | [] => (r, [])
  | c :: cs =>
    let next := r.change c
    let final := changes next.1 cs
    (final.1, next.2 :: final.2)

/-- If the change puts mail into the normal lane, then none has stayed there while `2 ^ 64` were put in after it, counting this one. -/
def InTime (r : Roll α) : Lanes.Change α → Prop
  | .push m => m.isUrgent = false → ∀ e ∈ r.normal, r.pushed.length < e.1 + 2 ^ 64
  | _ => True

instance decidableInTime (r : Roll α) : (c : Lanes.Change α) → Decidable (r.InTime c)
  | .push m => inferInstanceAs (Decidable (m.isUrgent = false → ∀ e ∈ r.normal, r.pushed.length < e.1 + 2 ^ 64))
  | .pop _ => isTrue trivial
  | .drain => isTrue trivial

/-- No mail stays in the normal lane while `2 ^ 64` more are put into it. -/
def Timely : Roll α → List (Lanes.Change α) → Prop
  | _, [] => True
  | r, c :: cs => r.InTime c ∧ (r.change c).1.Timely cs

instance decidableTimely : (r : Roll α) → (cs : List (Lanes.Change α)) → Decidable (r.Timely cs)
  | _, [] => isTrue trivial
  | r, c :: cs =>
    have := decidableTimely (r.change c).1 cs
    inferInstanceAs (Decidable (r.InTime c ∧ (r.change c).1.Timely cs))

theorem timely_append (cs ds : List (Lanes.Change α)) : ∀ r : Roll α,
    r.Timely (cs ++ ds) ↔ r.Timely cs ∧ (r.changes cs).1.Timely ds := by
  induction cs with
  | nil => intro r; simp [Timely, changes]
  | cons c cs ih => intro r; simp only [List.cons_append, Timely, changes, ih, and_assoc]

/-- Places go up along the normal lane, each is that of its mail on the roll, and none is further back than one time around. -/
structure Ordered (r : Roll α) : Prop where
  ascending : r.normal.Pairwise fun a b => a.1 < b.1
  listed : ∀ e ∈ r.normal, r.pushed[e.1]? = some e.2
  within : ∀ e ∈ r.normal, r.pushed.length ≤ e.1 + 2 ^ 64

variable {r : Roll α}

theorem ordered_new (urgent : List (Mail α)) : (new urgent).Ordered :=
  ⟨.nil, fun _ he => absurd he List.not_mem_nil, fun _ he => absurd he List.not_mem_nil⟩

theorem Ordered.lt (h : r.Ordered) {e : Nat × Mail α} (he : e ∈ r.normal) : e.1 < r.pushed.length :=
  (List.getElem?_eq_some_iff.mp (h.listed e he)).1

/-- Mail that leaves the normal lane leaves the rest in order. -/
theorem Ordered.sublist (h : r.Ordered) {urgent : List (Mail α)} {normal : List (Nat × Mail α)}
    (sub : List.Sublist normal r.normal) : ({ r with urgent := urgent, normal := normal } : Roll α).Ordered :=
  ⟨h.ascending.sublist sub, fun e he => h.listed e (sub.subset he), fun e he => h.within e (sub.subset he)⟩

/-- The newest mail has the last place. -/
theorem Ordered.push (h : r.Ordered) (m : Mail α) (inTime : ∀ e ∈ r.normal, r.pushed.length < e.1 + 2 ^ 64) :
    ({ r with pushed := r.pushed ++ [m], normal := r.normal ++ [(r.pushed.length, m)] } : Roll α).Ordered := by
  refine ⟨List.pairwise_append.mpr ⟨h.ascending, List.pairwise_singleton _ _, ?_⟩, fun e he => ?_, fun e he => ?_⟩
  · intro e he e' he'
    rw [List.mem_singleton.mp he']
    exact h.lt he
  · rcases List.mem_append.mp he with he | he
    · rw [List.getElem?_append_left (h.lt he)]
      exact h.listed e he
    · rw [List.mem_singleton.mp he]
      simp
  · simp only [List.length_append, List.length_singleton]
    rcases List.mem_append.mp he with he | he
    · have := inTime e he
      omega
    · rw [List.mem_singleton.mp he]
      omega

end Roll

/-! ## Keys of places -/

/-- The key of a place on the roll, if the first place has the key `first`. -/
def keyOf (first : UInt64) (place : Nat) : UInt64 := first + UInt64.ofNat place

theorem keyOf_succ (first : UInt64) (place : Nat) : keyOf first (place + 1) = keyOf first place + 1 := by
  rw [keyOf, keyOf, UInt64.ofNat_add, ← UInt64.add_assoc]
  rfl

theorem keyOf_eq_iff (first : UInt64) (a b : Nat) : keyOf first a = keyOf first b ↔ a % 2 ^ 64 = b % 2 ^ 64 := by
  rw [keyOf, keyOf, UInt64.add_right_inj, ← UInt64.toNat_inj, UInt64.toNat_ofNat', UInt64.toNat_ofNat']

/-- Keys are different if their places are less than one time around apart. -/
theorem keyOf_ne (first : UInt64) {a b : Nat} (lt : a < b) (near : b < a + 2 ^ 64) : keyOf first a ≠ keyOf first b := by
  rw [Ne, keyOf_eq_iff]
  omega

/-- An entry of the normal lane with the key in place of the place. -/
def keyed (first : UInt64) (e : Nat × Mail α) : UInt64 × Mail α := (keyOf first e.1, e.2)

/-! ## Lanes and their roll -/

namespace Lanes

/-- With no urgent mail queued, a take takes the first mail of the normal lane that it may take. -/
theorem pop_of_urgent_nil {l : Lanes α} (keys : (l.normal.map (·.1)).Nodup) (hu : l.urgent = []) (choice : Choice) :
    l.pop choice = (Reference.pickFirst (fun e => choice.mayTake e.2.toEnvelope) l.normal).map
      fun picked => (picked.1.2, { l with normal := picked.2 }) := by
  cases choice with
  | oldest => cases hn : l.normal <;> simp [pop, popOldest, hu, hn, Reference.pickFirst, Choice.mayTake]
  | eligible p =>
    change l.popEligible p = (Reference.pickFirst (fun e => e.2.isEligible p) l.normal).map _
    cases found : l.normal.find? fun entry => entry.2.isEligible p with
    | none =>
      have shut := List.find?_eq_none.mp found
      rw [popEligible_eq_none hu shut, Reference.pickFirst_eq_none shut, Option.map_none]
    | some e =>
      obtain ⟨open', pre, post, hn, passed⟩ := List.find?_eq_some_iff_append.mp found
      have shut : ∀ x ∈ pre, ¬x.2.isEligible p = true := fun x hx => by simpa using passed x hx
      rw [popEligible_eq_some keys hu hn shut open', hn, Reference.pickFirst_eq_some shut open', Option.map_some]

end Lanes

/-- Picking from a list of images is picking from the list. -/
theorem Reference.pickFirst_map {β γ : Type} (f : β → γ) (p : γ → Bool) (l : List β) :
    pickFirst p (l.map f) = (pickFirst (fun b => p (f b)) l).map fun picked => (f picked.1, picked.2.map f) := by
  simp only [pickFirst, List.find?_map, List.eraseP_map, Option.map_map, Function.comp_def]

/-- The lanes are those of the roll, with the keys of the places. -/
structure Follows (first : UInt64) (l : Lanes α) (r : Roll α) : Prop where
  urgent : l.urgent = r.urgent
  normal : l.normal = r.normal.map (keyed first)
  next : l.nextKey = keyOf first r.pushed.length
  ordered : r.Ordered

namespace Follows

variable {first : UInt64} {l : Lanes α} {r : Roll α}

theorem new (first : UInt64) (urgent : List (Mail α)) : Follows first ⟨urgent, [], first⟩ (.new urgent) :=
  ⟨rfl, rfl, (UInt64.add_zero first).symm, Roll.ordered_new urgent⟩

/-- All mail of the normal lane is within one time around, so no two of them have one key. -/
theorem keys_nodup (h : Follows first l r) : (l.normal.map (·.1)).Nodup := by
  rw [h.normal, List.map_map, List.Nodup, List.pairwise_map]
  refine h.ordered.ascending.imp_of_mem fun {a b} ha hb lt => keyOf_ne first lt ?_
  -- The later of the two is on the roll already, and the roll ends within one time around of the earlier.
  have := h.ordered.lt hb
  have := h.ordered.within a ha
  omega

/-- The next key is taken only if a mail has stayed while all but one of `2 ^ 64` were put in after it. -/
theorem key_eq_next_iff (h : Follows first l r) {e : Nat × Mail α} (he : e ∈ r.normal) :
    keyOf first e.1 = l.nextKey ↔ r.pushed.length = e.1 + 2 ^ 64 := by
  rw [h.next, keyOf_eq_iff]
  have := h.ordered.lt he
  have := h.ordered.within e he
  omega

theorem taken (h : Follows first l r) : ∀ e ∈ l.normal, e.1 = l.nextKey →
    ∃ n, (n, e.2) ∈ r.normal ∧ r.pushed.length = n + 2 ^ 64 := by
  intro e he taken
  rw [h.normal] at he
  obtain ⟨placed, hplaced, rfl⟩ := List.mem_map.mp he
  exact ⟨placed.1, hplaced, (h.key_eq_next_iff hplaced).mp taken⟩

/-- Before mail is put into the normal lane in time, none there has the next key. -/
theorem fresh (h : Follows first l r) {m : Mail α} (plain : m.isUrgent = false) (inTime : r.InTime (.push m)) :
    ∀ e ∈ l.normal, e.1 ≠ l.nextKey := by
  intro e he taken
  obtain ⟨n, hn, late⟩ := h.taken e he taken
  exact absurd late (Nat.ne_of_lt (inTime plain _ hn))

/-- A push in time adds the mail at the end of its lane and leaves the rest as it was. -/
theorem push_eq (h : Follows first l r) {m : Mail α} (inTime : r.InTime (.push m)) : l.displaced m = none ∧
    l.push m = if m.isUrgent then { l with urgent := l.urgent ++ [m] }
      else { l with normal := l.normal ++ [(l.nextKey, m)], nextKey := l.nextKey + 1 } := by
  cases plain : m.isUrgent with
  | true => exact ⟨by simp [Lanes.displaced, plain], by simp [Lanes.push, plain]⟩
  | false =>
    have fresh := h.fresh plain inTime
    have absent : l.normal.find? (fun entry => entry.1 == l.nextKey) = none :=
      List.find?_eq_none.mpr fun e he => by simpa using fresh e he
    exact ⟨by simp [Lanes.displaced, plain, absent], by simp [Lanes.push, plain, Lanes.link, Lanes.unlink_of_fresh fresh]⟩

/-- The bound is sharp: a mail that stays while `2 ^ 64` more are put into the lane is displaced by the last of them. -/
theorem displaced_of_late (h : Follows first l r) {n : Nat} {x m : Mail α} (stays : (n, x) ∈ r.normal)
    (late : r.pushed.length = n + 2 ^ 64) (plain : m.isUrgent = false) : l.displaced m = some x := by
  have taken : keyOf first n = l.nextKey := (h.key_eq_next_iff stays).mpr late
  obtain ⟨pre, post, hn⟩ := List.append_of_mem (h.normal ▸ List.mem_map_of_mem (f := keyed first) stays)
  have found := (Lanes.unlink_of_split (hn ▸ h.keys_nodup)).1
  rw [Lanes.displaced, plain, hn, ← taken]
  exact congrArg (Option.map (·.2)) found

/-- What lanes and roll have come to by one change: they handed out the same, and the lanes are still those of the roll. -/
theorem change (h : Follows first l r) (c : Lanes.Change α) (inTime : r.InTime c) :
    (l.change c).2 = (r.change c).2 ∧ Follows first (l.change c).1 (r.change c).1 := by
  cases c with
  | push m =>
    cases plain : m.isUrgent with
    | true =>
      simp only [Lanes.change, Roll.change, (h.push_eq inTime).2, plain, if_true]
      exact ⟨trivial, by rw [h.urgent], h.normal, h.next, h.ordered.sublist (.refl _)⟩
    | false =>
      simp only [Lanes.change, Roll.change, (h.push_eq inTime).2, plain, Bool.false_eq_true, if_false]
      refine ⟨trivial, h.urgent, ?_, ?_, h.ordered.push m (inTime plain)⟩
      · simp [h.normal, h.next, keyed]
      · simp [h.next, keyOf_succ]
  | pop choice =>
    cases hu : r.urgent with
    | cons m rest =>
      have taken : l.pop choice = some (m, { l with urgent := rest }) := by
        cases choice <;> simp [Lanes.pop, Lanes.popOldest, Lanes.popEligible, h.urgent, hu]
      simp only [Lanes.change, Roll.change, taken, hu]
      exact ⟨trivial, rfl, h.normal, h.next, h.ordered.sublist (.refl _)⟩
    | nil =>
      have taken := Lanes.pop_of_urgent_nil h.keys_nodup (h.urgent.trans hu) choice
      -- The scan looks at the mail alone, so it comes to the same one among keys and among places.
      rw [h.normal, Reference.pickFirst_map] at taken
      simp only [Lanes.change, Roll.change, taken, hu, keyed]
      cases picked : Reference.pickFirst (fun e => choice.mayTake e.2.toEnvelope) r.normal with
      | none => exact ⟨rfl, h⟩
      | some picked' =>
        obtain ⟨e, -, rfl⟩ := Option.map_eq_some_iff.mp picked
        exact ⟨rfl, h.urgent.trans hu, rfl, h.next, h.ordered.sublist List.eraseP_sublist⟩
  | drain =>
    refine ⟨?_, rfl, rfl, h.next, h.ordered.sublist (List.nil_sublist _)⟩
    simp only [Lanes.change, Roll.change, Lanes.toList, h.urgent, h.normal, List.map_map]
    rfl

/-- Changes in a row, each in time. -/
theorem changes (cs : List (Lanes.Change α)) : ∀ {l : Lanes α} {r : Roll α}, Follows first l r → r.Timely cs →
    (l.changes cs).2 = (r.changes cs).2 ∧ Follows first (l.changes cs).1 (r.changes cs).1 := by
  induction cs with
  | nil => exact fun h _ => ⟨rfl, h⟩
  | cons c cs ih =>
    intro l r h timely
    obtain ⟨handed, follows⟩ := h.change c timely.1
    obtain ⟨handed', follows'⟩ := ih follows timely.2
    exact ⟨congrArg₂ List.cons handed handed', follows'⟩

/-- A scan of the normal lane finds a key, and looking up and unlinking that key is about the mail that the scan came to. -/
theorem scan (h : Follows first l r) {p : Priority} {e : UInt64 × Mail α}
    (found : (l.normal.find? fun entry => entry.2.isEligible p) = some e) :
    (l.normal.find? fun entry => entry.1 == e.1) = some e ∧
      ∃ pre post, l.normal = pre ++ e :: post ∧ Lanes.unlink e.1 l.normal = pre ++ post ∧
        (l.urgent = [] → l.popEligible p = some (e.2, { l with normal := pre ++ post })) := by
  obtain ⟨open', pre, post, hn, passed⟩ := List.find?_eq_some_iff_append.mp found
  obtain ⟨looked, unlinked⟩ := Lanes.unlink_of_split (hn ▸ h.keys_nodup)
  refine ⟨hn ▸ looked, pre, post, hn, hn ▸ unlinked, fun hu => ?_⟩
  exact Lanes.popEligible_eq_some h.keys_nodup hu hn (fun x hx => by simpa using passed x hx) open'

end Follows

/-! ## The main statement -/

/-- What the keys of the normal lane are good for, in lanes `l` with the roll `r` to which the change `next` is done next. -/
structure KeysSound (l : Lanes α) (r : Roll α) (next : Option (Lanes.Change α)) : Prop where
  /-- No two mails have one key. -/
  distinct : (l.normal.map (·.1)).Nodup
  /-- The lane is the mail of the roll that is still in it. -/
  mail : l.normal.map (·.2) = r.normal.map (·.2)
  /-- That mail stands in the order in which it was put in. -/
  order : r.normal.Pairwise (fun a b => a.1 < b.1) ∧ ∀ e ∈ r.normal, r.pushed[e.1]? = some e.2
  /-- A mail has the next key only while all but one of `2 ^ 64` were put in after it. -/
  taken : ∀ e ∈ l.normal, e.1 = l.nextKey → ∃ n, (n, e.2) ∈ r.normal ∧ r.pushed.length = n + 2 ^ 64
  /-- Before mail is put into the lane none there has the key that it will have. -/
  fresh : ∀ m, next = some (.push m) → m.isUrgent = false → ∀ e ∈ l.normal, e.1 ≠ l.nextKey
  /-- No push replaces a queued mail, and all queued mail stays where it is. -/
  push : ∀ m, next = some (.push m) → l.displaced m = none ∧
    l.push m = if m.isUrgent then { l with urgent := l.urgent ++ [m] }
      else { l with normal := l.normal ++ [(l.nextKey, m)], nextKey := l.nextKey + 1 }
  /-- When the scan of a yield comes to a mail, what is taken out under its key is that mail, and nothing else changes. -/
  scan : ∀ p e, (l.normal.find? fun entry => entry.2.isEligible p) = some e →
    (l.normal.find? fun entry => entry.1 == e.1) = some e ∧
      ∃ pre post, l.normal = pre ++ e :: post ∧ Lanes.unlink e.1 l.normal = pre ++ post ∧
        (l.urgent = [] → l.popEligible p = some (e.2, { l with normal := pre ++ post }))

/-- Whatever the next key is when the normal lane is empty, as long as no mail stays in the lane while `2 ^ 64` more are put into it:
every change hands out what it hands out without keys, and at every point the keys are sound. -/
theorem keys_sound (first : UInt64) (urgent : List (Mail α)) (cs : List (Lanes.Change α))
    (timely : (Roll.new urgent).Timely cs) :
    let start : Lanes α := ⟨urgent, [], first⟩
    (start.changes cs).2 = ((Roll.new urgent).changes cs).2 ∧
      ∀ done rest, cs = done ++ rest →
        KeysSound (start.changes done).1 ((Roll.new urgent).changes done).1 rest.head? := by
  refine ⟨((Follows.new first urgent).changes cs timely).1, fun done rest split => ?_⟩
  subst split
  obtain ⟨before, after⟩ := (Roll.timely_append done rest _).mp timely
  have h := ((Follows.new first urgent).changes done before).2
  have inTime : ∀ c, rest.head? = some c → ((Roll.new urgent).changes done).1.InTime c := by
    intro c hc
    obtain ⟨tail, rfl⟩ := List.head?_eq_some_iff.mp hc
    exact after.1
  exact {
    distinct := h.keys_nodup
    mail := by rw [h.normal, List.map_map]; rfl
    order := ⟨h.ordered.ascending, h.ordered.listed⟩
    taken := h.taken
    fresh := fun m next plain => h.fresh plain (inTime _ next)
    push := fun m next => h.push_eq (inTime _ next)
    scan := fun p e found => h.scan found }

/-- Mails under the largest word and under the first words after it; a yield takes the second of three, and one more is put. -/
def aroundTheWord : List (Lanes.Change Nat) :=
  [.push ⟨⟨⟨"low", []⟩, .empty, 0⟩, 0⟩, .push ⟨⟨⟨"high", []⟩, .empty, 5⟩, 1⟩, .push ⟨⟨⟨"later", []⟩, .empty, 0⟩, 2⟩,
    .pop (.eligible 3), .push ⟨⟨⟨"last", []⟩, .empty, 0⟩, 3⟩]

theorem keys_sound_of_aroundTheWord : (Roll.new []).Timely aroundTheWord ∧
    let lanes := ((⟨[], [], 18446744073709551615⟩ : Lanes Nat).changes aroundTheWord).1
    lanes.normal.map (fun e => (e.1, e.2.action)) = [(18446744073709551615, 0), (1, 2), (2, 3)] ∧
      (lanes.normal.map (·.1)).Nodup := by
  have timely : (Roll.new []).Timely aroundTheWord := by decide
  obtain ⟨-, sound⟩ := keys_sound 18446744073709551615 [] aroundTheWord timely
  exact ⟨timely, by decide, (sound aroundTheWord [] (List.append_nil _).symm).distinct⟩

end Mailroom
