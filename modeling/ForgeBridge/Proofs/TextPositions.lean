import ForgeBridge.Proofs.LoadedConfigs
import ForgeBridge.Proofs.PathSegments
import Mathlib.Algebra.GroupWithZero.Nat
import Mathlib.Data.List.Induction

/-!
# Lines and columns

The line and the column that are told of a fault lead back to its offset (`Position.Locates`): the lines before it are
counted with their newlines, and the column counts the bytes from there on. A place further on has a position further
on (`before_of_lt`). What is told of a text that cannot be read is always the position of a place in that text
(`exists_of_load`).
-/

namespace ForgeBridge

namespace Text

open Ascii

/-! ## Bytes of newlines -/

/-- The byte of a newline is written for no other character. -/
theorem eq_newline_of_mem {c : Char} (h : newline ∈ String.utf8EncodeChar c) : c = '\n' := by
  have hten : ∀ n < 256, newline = UInt8.ofNat n → n = 10 := by
    intro n hn heq
    have hnat := congrArg UInt8.toNat heq
    rw [UInt8.toNat_ofNat_of_lt' hn] at hnat
    exact hnat.symm
  rw [← Char.toNat_inj]
  simp only [String.utf8EncodeChar] at h
  split at h
  case isTrue hle => exact hten _ (Nat.lt_of_le_of_lt hle (by decide)) (List.mem_singleton.1 h)
  case isFalse =>
    -- all bytes of a character that takes several are large
    exfalso
    split at h
    · simp only [List.mem_cons, List.not_mem_nil, or_false] at h
      rcases h with h | h <;> have := hten _ (by omega) h <;> omega
    split at h
    · simp only [List.mem_cons, List.not_mem_nil, or_false] at h
      rcases h with h | h | h <;> have := hten _ (by omega) h <;> omega
    · simp only [List.mem_cons, List.not_mem_nil, or_false] at h
      rcases h with h | h | h | h <;> have := hten _ (by omega) h <;> omega

theorem newline_notMem_bytes {cs : List Char} (h : '\n' ∉ cs) : newline ∉ bytes (.ofList cs) := by
  rw [bytes_eq_flatMap, String.toList_ofList]
  intro hmem
  obtain ⟨c, hc, hbyte⟩ := List.mem_flatMap.1 hmem
  exact h (eq_newline_of_mem hbyte ▸ hc)

/-! ## Lines -/

/-- Lines, each with its newline. -/
def unlines (lines : List (List Char)) : List Char := lines.flatMap (· ++ ['\n'])

theorem unlines_concat (lines : List (List Char)) (line : List Char) :
    unlines (lines ++ [line]) = unlines lines ++ (line ++ ['\n']) := by
  simp [unlines]

/-- Every text is some lines and the beginning of another one. -/
theorem exists_unlines (cs : List Char) :
    ∃ lines last, cs = unlines lines ++ last ∧ (∀ line ∈ lines, '\n' ∉ line) ∧ '\n' ∉ last := by
  induction cs using List.reverseRecOn with
  | nil => exact ⟨[], [], rfl, List.forall_mem_nil _, List.not_mem_nil⟩
  | append_singleton cs c ih =>
    obtain ⟨lines, last, rfl, hlines, hlast⟩ := ih
    by_cases hc : c = '\n'
    · refine ⟨lines ++ [last], [], ?_, ?_, List.not_mem_nil⟩
      · simp [unlines_concat, hc]
      · simpa [or_imp, forall_and] using ⟨hlines, hlast⟩
    · exact ⟨lines, last ++ [c], List.append_assoc .., hlines, by simpa [Ne.symm hc] using hlast⟩

theorem splitAt_unlines {lines : List (List Char)} (h : ∀ line ∈ lines, '\n' ∉ line) (rest : List Char) :
    splitAt '\n' (unlines lines ++ rest) = lines ++ splitAt '\n' rest := by
  induction lines with
  | nil => rfl
  | cons line lines ih =>
    obtain ⟨hline, hlines⟩ := List.forall_mem_cons.1 h
    have happend : unlines (line :: lines) ++ rest = line ++ '\n' :: (unlines lines ++ rest) := by simp [unlines]
    rw [happend, splitAt_append hline (splitAt_cons_sep '\n' _), ih hlines, List.append_nil, List.cons_append]

theorem count_unlines {lines : List (List Char)} (h : ∀ line ∈ lines, '\n' ∉ line) :
    (unlines lines).count '\n' = lines.length := by
  induction lines with
  | nil => rfl
  | cons line lines ih =>
    obtain ⟨hline, hlines⟩ := List.forall_mem_cons.1 h
    rw [unlines, List.flatMap_cons, List.count_append, ← unlines, ih hlines]
    simp [List.count_eq_zero.2 hline, Nat.add_comm]

theorem size_unlines (lines : List (List Char)) :
    (String.ofList (unlines lines)).utf8ByteSize =
      (lines.map fun l => (String.ofList l).utf8ByteSize + 1).sum := by
  induction lines with
  | nil => rfl
  | cons line lines ih =>
    have hnewline : (String.ofList ['\n']).utf8ByteSize = 1 := rfl
    rw [unlines, List.flatMap_cons, String.ofList_append, String.ofList_append, String.utf8ByteSize_append,
      String.utf8ByteSize_append, hnewline, ← unlines, ih, List.map_cons, List.sum_cons]

namespace Position

/-! ## What is read, byte by byte -/

section
variable (bs : List UInt8) {w : List UInt8}

theorem after_newline : after (bs ++ [newline]) = ⟨(after bs).line + 1, 0⟩ := by
  simp [after]

theorem after_append (hw : newline ∉ w) : after (bs ++ w) = ⟨(after bs).line, (after bs).column + w.length⟩ := by
  have hrun : ∀ b ∈ w.reverse, decide (b ≠ newline) = true := by
    intro b hb
    rw [decide_eq_true_eq]
    rintro rfl
    exact hw (List.mem_reverse.1 hb)
  simp only [after, List.count_append, List.count_eq_zero.2 hw, List.reverse_append,
    List.takeWhile_append_of_pos hrun, List.length_append, List.length_reverse, Nat.add_zero,
    Nat.add_comm w.length]

/-- The line and the column come before others: they are on an earlier line, or further to the left. -/
def Before (p q : Position) : Prop := p.line < q.line ∨ p.line = q.line ∧ p.column < q.column

theorem before_after_append (hw : w ≠ []) : (after bs).Before (after (bs ++ w)) := by
  by_cases hmem : newline ∈ w
  · have hpos := List.count_pos_iff.2 hmem
    refine .inl ?_
    simp only [after, List.count_append]
    omega
  · have hlength := List.length_pos_of_ne_nil hw
    rw [after_append bs hmem]
    exact .inr ⟨rfl, Nat.lt_add_of_pos_right hlength⟩

end

/-- Behind some lines and the beginning of another one, that one is read. -/
theorem after_unlines {lines : List (List Char)} {last : List Char} (hlines : ∀ line ∈ lines, '\n' ∉ line)
    (hlast : '\n' ∉ last) :
    after (bytes (.ofList (unlines lines ++ last))) = ⟨lines.length + 1, (String.ofList last).utf8ByteSize⟩ := by
  have hlines : after (bytes (.ofList (unlines lines))) = ⟨lines.length + 1, 0⟩ := by
    induction lines using List.reverseRecOn with
    | nil =>
      rw [bytes_eq_flatMap, String.toList_ofList]
      rfl
    | append_singleton lines line ih =>
      obtain ⟨hlines, hline⟩ := List.forall_mem_append.1 hlines
      have hnewline : bytes (.ofList ['\n']) = [newline] := by
        rw [bytes_eq_flatMap, String.toList_ofList]
        rfl
      rw [unlines_concat, String.ofList_append, String.ofList_append, bytes_append, bytes_append, hnewline,
        ← List.append_assoc, after_newline, after_append _ (newline_notMem_bytes (hline _ (.head _))), ih hlines,
        List.length_append, List.length_singleton]
  rw [String.ofList_append, bytes_append, after_append _ (newline_notMem_bytes hlast), hlines, length_bytes,
    Nat.zero_add]

/-! ## Back to the offset -/

/-- Where a line starts: behind the lines before it, each with its newline. -/
def lineStart (text : String) (line : Nat) : Nat :=
  (((splitAt '\n' text.toList).take (line - 1)).map fun l => (String.ofList l).utf8ByteSize + 1).sum

/-- A line and a column, both counted from one, lead to an offset of a text. -/
structure Locates (p : Position) (text : String) (offset : Nat) : Prop where
  line_pos : 1 ≤ p.line
  line_le : p.line ≤ text.toList.count '\n' + 1
  column_pos : 1 ≤ p.column
  offset_eq : lineStart text p.line + (p.column - 1) = offset
  sameLine : ∀ i, lineStart text p.line ≤ i → i < offset → (bytes text)[i]? ≠ some newline

theorem locates_after (before place : String) :
    Locates ⟨(after (bytes before)).line, (after (bytes before)).column + 1⟩ (before ++ place)
      before.utf8ByteSize := by
  obtain ⟨lines, last, hbefore, hlines, hlast⟩ := exists_unlines before.toList
  obtain rfl : before = .ofList (unlines lines ++ last) := by rw [← hbefore, String.ofList_toList]
  have htext : (String.ofList (unlines lines ++ last) ++ place).toList =
      unlines lines ++ (last ++ place.toList) := by simp
  have hstart : lineStart (.ofList (unlines lines ++ last) ++ place) (lines.length + 1) =
      (String.ofList (unlines lines)).utf8ByteSize := by
    rw [lineStart, htext, splitAt_unlines hlines, Nat.add_sub_cancel, List.take_left, size_unlines]
  have hsize : (String.ofList (unlines lines ++ last)).utf8ByteSize =
      (String.ofList (unlines lines)).utf8ByteSize + (String.ofList last).utf8ByteSize := by
    rw [String.ofList_append, String.utf8ByteSize_append]
  rw [after_unlines hlines hlast]
  refine ⟨Nat.le_add_left 1 _, ?_, Nat.le_add_left 1 _, ?_, fun i hi hlt => ?_⟩
  · rw [htext, List.count_append, count_unlines hlines]
    exact Nat.succ_le_succ (Nat.le_add_right _ _)
  · rw [hstart, hsize, Nat.add_sub_cancel]
  · rw [hstart] at hi
    have hfront : (bytes (.ofList (unlines lines))).length ≤ i := by rwa [length_bytes]
    have hin : i - (bytes (.ofList (unlines lines))).length < (bytes (.ofList last)).length := by
      rw [length_bytes, length_bytes]
      omega
    rw [bytes_append, String.ofList_append, bytes_append, List.append_assoc, List.getElem?_append_right hfront,
      List.getElem?_append_left hin]
    exact fun hget => newline_notMem_bytes hlast (List.mem_of_getElem? hget)

end Position

end Text

namespace Toml

open Text

/-- The line and the column that are told of a fault at a place in a text. -/
def positionAt (text : String) (p : text.Pos) : Position := position text.toList (text.sliceFrom p).copy.toList

section
variable {text before place : String} {p q : text.Pos}

theorem positionAt_of_splits (h : p.Splits before place) :
    positionAt text p = ⟨(Position.after (bytes before)).line, (Position.after (bytes before)).column + 1⟩ := by
  have hlist : text.toList = before.toList ++ place.toList := by rw [← String.toList_append, ← h.eq_append]
  simp [positionAt, ← h.eq_right p.splits, position, hlist]

theorem locates_positionAt (p : text.Pos) : (positionAt text p).Locates text p.offset.byteIdx := by
  have hlocates := Position.locates_after (text.sliceTo p).copy (text.sliceFrom p).copy
  rwa [← positionAt_of_splits p.splits, ← p.splits.eq_append, ← String.byteIdx_rawEndPos,
    ← p.splits.offset_eq_rawEndPos] at hlocates

/-- What stands before a place stands before all places behind it, with something in between. -/
theorem exists_between (h : p < q) :
    ∃ between ≠ "", (text.sliceTo q).copy = (text.sliceTo p).copy ++ between := by
  have hsize : (text.sliceTo p).copy.utf8ByteSize < (text.sliceTo q).copy.utf8ByteSize := by
    rw [← String.byteIdx_rawEndPos, ← String.byteIdx_rawEndPos, ← p.splits.offset_eq_rawEndPos,
      ← q.splits.offset_eq_rawEndPos]
    exact h
  have hsame := congrArg String.toList (p.splits.eq_append.symm.trans q.splits.eq_append)
  rw [String.toList_append, String.toList_append] at hsame
  rcases List.append_eq_append_iff.1 hsame with ⟨between, hq, -⟩ | ⟨between, hp, -⟩
  · have happend : (text.sliceTo q).copy = (text.sliceTo p).copy ++ .ofList between := by
      rw [← String.toList_inj, String.toList_append, String.toList_ofList, hq]
    refine ⟨.ofList between, ?_, happend⟩
    intro hempty
    rw [happend, hempty, String.append_empty] at hsize
    exact absurd hsize (Nat.lt_irrefl _)
  · have happend : (text.sliceTo p).copy = (text.sliceTo q).copy ++ .ofList between := by
      rw [← String.toList_inj, String.toList_append, String.toList_ofList, hp]
    rw [happend, String.utf8ByteSize_append] at hsize
    omega

theorem before_of_lt (h : p < q) : (positionAt text p).Before (positionAt text q) := by
  obtain ⟨between, hne, hq⟩ := exists_between h
  have hbytes : bytes between ≠ [] := by
    intro hnil
    have hlength := length_bytes between
    rw [hnil, List.length_nil] at hlength
    exact hne (String.utf8ByteSize_eq_zero_iff.1 hlength.symm)
  rw [positionAt_of_splits p.splits, positionAt_of_splits q.splits, hq, bytes_append]
  rcases Position.before_after_append (bytes (text.sliceTo p).copy) hbytes with hline | ⟨hline, hcolumn⟩
  · exact .inl hline
  · exact .inr ⟨hline, Nat.succ_lt_succ hcolumn⟩

/-! ## What is told of a text that cannot be read -/

/-- A position depends only on how much of the text is behind it, and so it is that of a place in the text. -/
theorem exists_positionAt (text : String) (rest : List Char) :
    ∃ p, position text.toList rest = positionAt text p := by
  let n := text.toList.length - rest.length
  have happend : text = .ofList (text.toList.take n) ++ .ofList (text.toList.drop n) := by
    rw [← String.ofList_append, List.take_append_drop, String.ofList_toList]
  have hvalid := String.Pos.Raw.isValid_iff_exists_append.2 ⟨_, _, happend, rfl⟩
  have hsplits : String.Pos.Splits ⟨_, hvalid⟩ (.ofList (text.toList.take n)) (.ofList (text.toList.drop n)) :=
    ⟨happend, rfl⟩
  exact ⟨_, (positionAt_of_splits hsplits).symm⟩

end

/-- What is wrong inside an item with a place has a place. -/
theorem Item.place_of_placing {item : Item} {place : Place} (hplace : item.place? = some place) {r : Except Misfit α}
    {m : Misfit} (h : item.placing r = .error m) : ∃ place, m.place = some place := by
  cases r with
  | ok a => cases h
  | error inner =>
    cases h
    rw [hplace]
    cases hinner : inner.place with
    | none => exact ⟨place, by simp [Misfit.placedAt, hinner]⟩
    | some place => exact ⟨place, by simp [Misfit.placedAt, hinner]⟩

/-- Of a text that cannot be read as a record, a place in the text is told. -/
theorem exists_of_read {text name : String} {ms : Members} {e : Error} (h : read (.record name ms) text = .error e) :
    ∃ p, e.position = some (positionAt text p) := by
  have hplaced : ∀ rest, ∃ p, some (position text.toList rest) = some (positionAt text p) := fun rest =>
    (exists_positionAt text rest).imp fun _ => congrArg some
  unfold read parse at h
  split at h
  case h_1 f _ =>
    cases h
    exact hplaced f.rest
  case h_2 root hroot =>
    split at hroot
    · cases hroot
      split at h
      case h_1 m hm =>
        cases h
        obtain ⟨place, hplace⟩ := Item.place_of_placing rfl (by simpa only [decode, Item.entries?] using hm)
        simpa only [hplace, Option.map_some] using hplaced place
      · cases h
    · cases hroot

end Toml

namespace Config

open Toml (positionAt)

section
variable {text message : String} {position : Option Text.Position}

theorem validate_ne_invalidToml (c : Config) : c.validate ≠ .error (.invalidToml position message) := by
  intro h
  rcases fault_of_validate h with ⟨-, he⟩ | ⟨-, -, he⟩ | ⟨-, -, _, _, -, he⟩ <;> cases he

/-- With a text that is no configuration, a place in the text is told. -/
theorem exists_of_load {env : Environment} (h : load env text = .error (.invalidToml position message)) :
    ∃ p, position = some (positionAt text p) := by
  unfold load ofToml at h
  split at h
  case h_1 hread =>
    split at hread
    · rename_i hread'
      cases h
      cases hread
      exact Toml.exists_of_read hread'
    · cases hread
  case h_2 c _ =>
    unfold settle at h
    split at h
    · rename_i hvalid
      cases h
      exact absurd hvalid (validate_ne_invalidToml _)
    · cases h

end

/-- The line and the column of a place lead back to its offset: the line is one of the text's, it starts behind the
lines before it, and from there the place is as many bytes away as the column says, with no newline in between. Places
in a text come in the order of their positions. The position that is told of a text which is no configuration is that
of a place in it. -/
theorem faults_located (text : String) :
    (∀ p : text.Pos, (positionAt text p).Locates text p.offset.byteIdx) ∧
      (∀ p q : text.Pos, p < q → (positionAt text p).Before (positionAt text q)) ∧
      ∀ env position message, load env text = .error (.invalidToml position message) →
        ∃ p : text.Pos, position = some (positionAt text p) :=
  ⟨Toml.locates_positionAt, fun _ _ => Toml.before_of_lt, fun _ _ _ => exists_of_load⟩

/-- A value is missing in the second line, and a character of the first line takes two bytes. So the fault is behind
thirteen bytes. -/
theorem faults_located_umlaut :
    let text := "a = \"ä\"\nb = \n"
    (∃ message, load (fun _ => none) text = .error (.invalidToml (some ⟨2, 5⟩) message)) ∧
      ∃ p : text.Pos, p.offset.byteIdx = 13 ∧ positionAt text p = ⟨2, 5⟩ ∧
        (positionAt text text.startPos).Before ⟨2, 5⟩ := by
  intro text
  obtain ⟨hlocates, hbefore, hfault⟩ := faults_located text
  obtain ⟨message, hload⟩ :
      ∃ message, load (fun _ => none) text = .error (.invalidToml (some ⟨2, 5⟩) message) := by
    refine ⟨"invalid string\nexpected `\"`, `'`", ?_⟩
    decide +kernel
  obtain ⟨p, hp⟩ := hfault _ _ _ hload
  have hposition : positionAt text p = ⟨2, 5⟩ := (Option.some.inj hp).symm
  have hoffset : p.offset.byteIdx = 13 := by
    have hstart : Text.Position.lineStart text 2 = 9 := by decide +kernel
    have heq := (hlocates p).offset_eq
    rw [hposition, hstart] at heq
    exact heq.symm
  have hlt : text.startPos < p := by
    rw [String.Pos.lt_iff, String.Pos.Raw.lt_iff, hoffset]
    decide
  exact ⟨⟨message, hload⟩, p, hoffset, hposition, hposition ▸ hbefore _ _ hlt⟩

end Config

end ForgeBridge
