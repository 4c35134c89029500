import ForgeBridge.Proofs.JsonReading

/-!
# JSON texts of a shape

What a value of a shape is written as (`Fits`): the members of a record stand in any order, among members of other
names (`Holds`), with white space anywhere and with strings in any spelling. Every such text is read as the value
(`reads_ofShape`).
-/

namespace ForgeBridge.Json

open Ascii

/-! ## Members of records -/

/-- What is asked of the text of a member, or of its absence. -/
abbrev Demand := Option (List UInt8) → Prop

/-- The member is there. -/
def Given (P : List UInt8 → Prop) : Demand := fun v? => ∃ v, v? = some v ∧ P v

/-- The member is there, or it is left out for want of a value. -/
def Optionally (P : α → List UInt8 → Prop) : Option α → Demand
  | some x => Given (P x)
  | none => fun v? => v? = none

/-- The member is there, or it is left out or null for want of a value. -/
def OrNull (P : α → List UInt8 → Prop) : Option α → Demand
  | some x => Given (P x)
  | none => fun v? => v? = none ∨ v? = some nullText

/-- The members of an object hold what is asked: there is at most one of each name that is asked for, as it is
asked for, and those of other names are any values. -/
def Holds : List (String × Demand) → List (String × List UInt8) → Prop
  | [], es => ∀ e ∈ es, IsJson e.2
  | (name, P) :: asked, es =>
    (∃ v?, es.filter (·.1 = name) = (v?.map (name, ·)).toList ∧ P v?) ∧ Holds asked (es.filter (·.1 ≠ name))

/-- The text of an object that holds what is asked. -/
def IsRecord (asked : List (String × Demand)) (t : List UInt8) : Prop := ∃ es, IsObject es t ∧ Holds asked es

theorem Enclosed.head_ne {f : Frame} {items : List (List UInt8)} {t : List UInt8} (h : Enclosed f items t) :
    t.head? ≠ some letterN := by
  have hopening : f.opening ≠ letterN := by cases f <;> decide
  cases h <;> exact fun heq => hopening (Option.some.inj heq)

/-- What is asked of a member, as its presence allows. -/
def demand (P : α → List UInt8 → Prop) : (p : Presence) → p.Val α → Demand
  | .required, x => Given (P x)
  | .nullable, x => OrNull P x
  | .defaulted, x => Optionally P x

mutual

/-- The text is a value of the shape. -/
def Fits : (s : Shape) → s.Val → List UInt8 → Prop
  | .text, x, t => IsText x t
  | .natural, n, t => IsNatural n.toNat t
  | .tally, n, t => IsTally n t
  | .list item, xs, t => ∃ items, Enclosed .list items t ∧ List.Forall₂ (Fits item) xs items
  | .table item, xs, t => ∃ es, IsObject es t ∧ List.Forall₂ (fun x e => x.1 = e.1 ∧ Fits item x.2 e.2) xs es
  | .record _ ms, x, t => IsRecord (demands ms x) t

/-- What is asked of the members of a record. -/
def demands : (ms : Members) → ms.Val → List (String × Demand)
  | .nil, () => []
  | .cons name p s others, (x, xs) => (name, demand (Fits s) p x) :: demands others xs

end

/-- No value of a shape starts like null. -/
theorem Fits.starts : ∀ {s : Shape} {x : s.Val} {t : List UInt8}, Fits s x t → Starts t ∧ t.head? ≠ some letterN
  | .text, x, t, h => by
    refine ⟨IsText.starts h, ?_⟩
    obtain ⟨body, -, rfl⟩ := h
    rintro ⟨⟩
  | .natural, n, t, h => by
    refine ⟨IsNatural.starts h, ?_⟩
    obtain ⟨⟨hdigits, -⟩, -⟩ := h
    obtain ⟨d, ds, rfl, hd, -⟩ := hdigits.exists_cons
    exact fun heq => ne_of_isDigit hd (by decide) (Option.some.inj heq)
  | .tally, n, t, ⟨items, ht, _⟩ => ⟨ht.starts, ht.head_ne⟩
  | .list item, xs, t, ⟨items, ht, _⟩ => ⟨ht.starts, ht.head_ne⟩
  | .table item, xs, t, ⟨es, ⟨items, _, ht⟩, _⟩ => ⟨ht.starts, ht.head_ne⟩
  | .record _ ms, x, t, ⟨es, ⟨items, _, ht⟩, _⟩ => ⟨ht.starts, ht.head_ne⟩

/-! ## Records -/

section
variable {P : α → List UInt8 → Prop} {p : Presence} {x : p.Val α}

theorem reads_ofPresence {r : Reader α} (hstarts : ∀ x t, P x t → Starts t ∧ t.head? ≠ some letterN)
    (hreads : ∀ x t, P x t → Reads r t x) {v : List UInt8} (h : demand P p x (some v)) :
    Reads (Reader.ofPresence p r) v x := by
  cases p with
  | required =>
    obtain ⟨v, ⟨⟩, hv⟩ := h
    exact hreads x v hv
  | nullable =>
    cases x with
    | none =>
      rcases h with ⟨⟨⟩⟩ | ⟨⟨⟩⟩
      exact reads_null r
    | some x =>
      obtain ⟨v, ⟨⟩, hv⟩ := h
      exact reads_nullable (hstarts x v hv).1 (hstarts x v hv).2 (hreads x v hv)
  | defaulted =>
    cases x with
    | none => cases h
    | some x =>
      obtain ⟨v, ⟨⟩, hv⟩ := h
      exact (hreads x v hv).map some

end

variable {name : String} {p : Presence} {s : Shape} {others : Members}

/-- A member that may be absent, and is, has no value. -/
theorem collect_absent {P : s.Val → List UInt8 → Prop} {x : p.Val s.Val} (h : demand P p x none)
    {slots : others.Slots} {xs : others.Val} (hxs : others.collect slots = .ok xs) :
    (Members.cons name p s others).collect (none, slots) = .ok (x, xs) := by
  cases p with
  | required =>
    obtain ⟨v, ⟨⟩, -⟩ := h
  | nullable | defaulted =>
    cases x with
    | none => simp [Members.collect, hxs, bind, Except.bind, pure, Except.pure]
    | some x =>
      obtain ⟨v, ⟨⟩, -⟩ := h

theorem slot_other {key : String} (h : key ≠ name) (known : Option (p.Val s.Val)) (slots : others.Slots) :
    Reader.slot (.cons name p s others) key (known, slots) = (Reader.slot others key slots).map (known, ·) := by
  rw [Reader.slot.eq_def]
  exact if_neg h

theorem slot_same (slots : others.Slots) :
    Reader.slot (.cons name p s others) name (none, slots) =
      ((Reader.ofPresence p (Reader.ofShape s)).member name).map fun v => (some v, slots) := by
  rw [Reader.slot, if_pos rfl]

/-- Members of other names leave a member as it is known. -/
theorem takes_others {es : List (String × List UInt8)} (hnone : es.filter (·.1 = name) = [])
    {slots slots' : others.Slots} (h : Takes (Reader.slot others) slots (es.filter (·.1 ≠ name)) slots')
    (known : Option (p.Val s.Val)) :
    Takes (Reader.slot (.cons name p s others)) (known, slots) es (known, slots') := by
  have hall : ∀ e ∈ es, e.1 ≠ name := by simpa using hnone
  rw [List.filter_eq_self.2 (by simpa using hall)] at h
  clear hnone
  induction h with
  | nil => exact .nil
  | cons hmember _ ih =>
    obtain ⟨he, hes⟩ := List.forall_mem_cons.1 hall
    exact .cons (slot_other he known _ ▸ hmember.map (known, ·)) (ih hes)

/-- A member that is there once is read. -/
theorem takes_member {es : List (String × List UInt8)} {v : List UInt8} (hone : es.filter (·.1 = name) = [(name, v)])
    {slots slots' : others.Slots} (h : Takes (Reader.slot others) slots (es.filter (·.1 ≠ name)) slots')
    {x : p.Val s.Val} (hread : Reads (Reader.ofPresence p (Reader.ofShape s)) v x) :
    Takes (Reader.slot (.cons name p s others)) (none, slots) es (some x, slots') := by
  induction es generalizing slots with
  | nil => cases hone
  | cons e es ih =>
    by_cases he : e.1 = name
    · rw [List.filter_cons_of_pos (by simpa using he)] at hone
      rw [List.filter_cons_of_neg (by simpa using he)] at h
      obtain ⟨rfl, hnone⟩ := List.cons.inj hone
      exact .cons (slot_same slots ▸ (hread.member name).map _) (takes_others hnone h (some x))
    · rw [List.filter_cons_of_neg (by simpa using he)] at hone
      rw [List.filter_cons_of_pos (by simpa using he)] at h
      cases h with
      | cons hmember h => exact .cons (slot_other he none _ ▸ hmember.map (none, ·)) (ih hone h)

theorem takes_nil {es : List (String × List UInt8)} (h : ∀ e ∈ es, IsJson e.2) :
    Takes (Reader.slot .nil) () es () := by
  induction es with
  | nil => exact .nil
  | cons e es ih =>
    obtain ⟨he, hes⟩ := List.forall_mem_cons.1 h
    exact .cons ((reads_skip he).member e.1) (ih hes)

theorem reads_record {ms : Members} {elements : Reader ms.Val} {es : List (String × List UInt8)} {slots : ms.Slots}
    {x : ms.Val} (h : Takes (Reader.slot ms) ms.unfilled es slots) (hx : ms.collect slots = .ok x) {t : List UInt8}
    (ht : IsObject es t) : Reads (Reader.record name ms (Reader.slot ms) elements) t x := by
  intro w rest hw hrest
  have hstart := skipBlank_starts hw ht.starts rest
  obtain ⟨more, hmore, hread⟩ := members_object h ht rest
  rw [hmore] at hstart ⊢
  simp only [Reader.record, hstart]
  split
  · next heq =>
    cases heq
    simp only [hread, hx]
  · next heq => cases heq
  · next hne _ => exact absurd rfl (hne more)

mutual

/-- Every text that is a value of a shape is read as that value. -/
theorem reads_ofShape : ∀ (s : Shape) (x : s.Val) (t : List UInt8), Fits s x t → Reads (Reader.ofShape s) t x
  | .text, x, t, h => reads_text h
  | .natural, n, t, h => reads_natural h
  | .tally, n, t, h => reads_tally h
  | .list item, xs, t, ⟨items, ht, hitems⟩ =>
    reads_list (hitems.imp fun x i hi => ⟨hi.starts.1, reads_ofShape item x i hi⟩) ht
  | .table item, xs, t, ⟨es, ht, hes⟩ =>
    reads_table (hes.imp fun x e he => ⟨he.1, reads_ofShape item x.2 e.2 he.2⟩) ht
  | .record name ms, x, t, ⟨es, ht, hes⟩ => by
    obtain ⟨slots, htakes, hx⟩ := takes_slot ms x es hes
    exact reads_record htakes hx ht

/-- The members of an object that holds what a record asks are taken in, and nothing is missing. -/
theorem takes_slot : ∀ (ms : Members) (x : ms.Val) (es : List (String × List UInt8)), Holds (demands ms x) es →
    ∃ slots, Takes (Reader.slot ms) ms.unfilled es slots ∧ ms.collect slots = .ok x
  | .nil, (), es, h => ⟨(), takes_nil h, rfl⟩
  | .cons name p s others, (x, xs), es, ⟨⟨v?, hmember, hv⟩, hothers⟩ => by
    obtain ⟨slots, htakes, hxs⟩ := takes_slot others xs _ hothers
    cases v? with
    | none => exact ⟨(none, slots), takes_others hmember htakes none, collect_absent hv hxs⟩
    | some v =>
      have hread := reads_ofPresence (fun x t hx => Fits.starts hx) (reads_ofShape s) hv
      refine ⟨(some x, slots), takes_member hmember htakes hread, ?_⟩
      simp [Members.collect, hxs, bind, Except.bind, pure, Except.pure]

end

/-- A whole text that is a value of a shape, with white space around it, is read as that value. -/
theorem read_eq_ok {s : Shape} {x : s.Val} {t w w' : List UInt8} (h : Fits s x t) (hw : Blank w) (hw' : Blank w') :
    read s (w ++ (t ++ w')) = .ok x := by
  have hend : skipBlank w' = [] := by
    have hskip := skipBlank_append hw' []
    rwa [List.append_nil] at hskip
  simp only [read, reads_ofShape s x t h w w' hw hw'.ends, hend]

/-- So it is where the text may go on. -/
theorem readFront_eq_ok {s : Shape} {x : s.Val} {t w rest : List UInt8} (h : Fits s x t) (hw : Blank w)
    (hrest : Stops rest) : readFront s (w ++ (t ++ rest)) = .ok x := by
  simp only [readFront, reads_ofShape s x t h w rest hw hrest]

end ForgeBridge.Json
