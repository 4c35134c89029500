import ForgeBridge.Proofs.TextBytes
import ForgeBridge.Text.Pieces
import ForgeBridge.Url.Path

/-!
# Segments of paths

A text that is percent encoded with the percent sign can be read back (`percentDecode_percentEncode`). So a
text that is put behind a path as a segment is found there again, unless it holds tabs or newlines, which do
not count, or is one dot or two, which go nowhere (`extend_of_whole`, `extend_of_not_whole`). No segment holds a
slash, and so a path that is written down can be cut into its segments (`splitAt_display`).
-/

namespace ForgeBridge

/-! ## Pieces between slashes -/

namespace Text

variable {sep : Char} {xs rest : List Char}

theorem splitAt_ne_nil (sep : Char) (cs : List Char) : splitAt sep cs ≠ [] := by
  cases cs with
  | nil => simp [splitAt]
  | cons c cs =>
    rw [splitAt]
    split
    · simp
    · split <;> simp

theorem splitAt_cons_sep (sep : Char) (cs : List Char) : splitAt sep (sep :: cs) = [] :: splitAt sep cs := by
  rw [splitAt]
  split
  · rename_i hnil
    exact absurd hnil (splitAt_ne_nil sep cs)
  · rename_i piece pieces hcs
    rw [if_pos rfl, hcs]

/-- A piece goes up to where a separator comes. -/
theorem splitAt_append {piece : List Char} {pieces : List (List Char)} (hxs : sep ∉ xs)
    (h : splitAt sep rest = piece :: pieces) : splitAt sep (xs ++ rest) = (xs ++ piece) :: pieces := by
  induction xs with
  | nil => exact h
  | cons x xs ih =>
    obtain ⟨hx, hxs⟩ := not_or.1 (mt List.mem_cons.2 hxs)
    rw [List.cons_append, splitAt, ih hxs]
    exact if_neg (Ne.symm hx)

end Text

namespace Url

/-! ## Percent encoding -/

/-- A byte that is no percent sign stands for itself. -/
theorem percentDecode_cons {b : UInt8} (hb : b ≠ 0x25) (rest : List UInt8) :
    percentDecode (b :: rest) = b :: percentDecode rest := by
  rw [percentDecode.eq_def]
  split
  · simp_all
  · simp_all
  · rename_i heq
    cases heq
    rfl

/-- The digits of percent encoding are read as the numbers below sixteen. -/
theorem read_hexCapital {n : Nat} (hn : n < 16) :
    ∃ b, String.utf8EncodeChar (hexCapital n) = [b] ∧ Ascii.hexDigit? b = some n := by
  have h : ∀ n < 16, (String.utf8EncodeChar (hexCapital n)).map Ascii.hexDigit? = [some n] := by decide
  exact List.map_eq_singleton_iff.1 (h n hn)

/-- A percent sign and two digits stand for the byte they are made for. -/
theorem percentDecode_byte (b : UInt8) (rest : List UInt8) :
    percentDecode
      (['%', hexCapital (b.toNat / 16), hexCapital (b.toNat % 16)].flatMap String.utf8EncodeChar ++ rest) =
        b :: percentDecode rest := by
  have hb : b.toNat < 256 := b.toNat_lt
  obtain ⟨high, hhigh, hread⟩ := read_hexCapital (show b.toNat / 16 < 16 by omega)
  obtain ⟨low, hlow, hread'⟩ := read_hexCapital (show b.toNat % 16 < 16 by omega)
  have hsign : String.utf8EncodeChar '%' = [0x25] := by decide
  have hback : UInt8.ofNat (b.toNat / 16 * 16 + b.toNat % 16) = b := by
    rw [show b.toNat / 16 * 16 + b.toNat % 16 = b.toNat by omega, UInt8.ofNat_toNat]
  simp only [List.flatMap_cons, List.flatMap_nil, hhigh, hlow, hsign, List.append_nil, List.cons_append,
    List.nil_append, percentDecode, hread, hread', hback]

theorem percentDecode_percentChar (c : Char) (rest : List UInt8) :
    percentDecode ((percentChar c).flatMap String.utf8EncodeChar ++ rest) =
      String.utf8EncodeChar c ++ percentDecode rest := by
  rw [percentChar, List.flatMap_assoc]
  induction String.utf8EncodeChar c with
  | nil => rfl
  | cons b bs ih => rw [List.flatMap_cons, List.append_assoc, percentDecode_byte, ih, List.cons_append]

/-- A character that is not encoded is written as one byte, which is no percent sign if that sign is encoded. -/
theorem utf8EncodeChar_of_not_holds {set : EncodeSet} {c : Char} (hset : '%' ∈ set) (hc : set.holds c = false) :
    ∃ b, String.utf8EncodeChar c = [b] ∧ b ≠ 0x25 := by
  simp only [EncodeSet.holds, Bool.or_eq_false_iff, decide_eq_false_iff_not] at hc
  obtain ⟨⟨-, hle⟩, hnot⟩ := hc
  have hlt : c.toNat ≤ '~'.toNat := Char.not_lt.1 hle
  have hnat : (UInt8.ofNat c.toNat).toNat = c.toNat :=
    UInt8.toNat_ofNat_of_lt' (Nat.lt_of_le_of_lt hlt (by decide))
  have hback : Char.ofNat (UInt8.ofNat c.toNat).toNat = c := by rw [hnat, Char.ofNat_toNat]
  refine ⟨.ofNat c.toNat, ?_, ?_⟩
  · have h := Text.utf8EncodeChar_ofNat (b := .ofNat c.toNat)
      (UInt8.lt_iff_toNat_lt.2 (by rw [hnat]; exact Nat.lt_of_le_of_lt hlt (by decide)))
    rwa [hback] at h
  · intro hsign
    have hpercent : c = '%' := by
      rw [← hback, hsign]
      rfl
    exact absurd (List.contains_iff_mem.2 hset) (by rw [← hpercent, hnot]; exact Bool.false_ne_true)

theorem percentEncode_cons (set : EncodeSet) (c : Char) (cs : List Char) :
    percentEncode set (c :: cs) = (if set.holds c then percentChar c else [c]) ++ percentEncode set cs :=
  List.flatMap_cons

/-- What is percent encoded is read back, if the percent sign is encoded too. -/
theorem percentDecode_percentEncode {set : EncodeSet} (hset : '%' ∈ set) (cs : List Char) :
    percentDecode (Text.bytes (.ofList (percentEncode set cs))) = Text.bytes (.ofList cs) := by
  rw [Text.bytes_eq_flatMap, Text.bytes_eq_flatMap, String.toList_ofList, String.toList_ofList]
  induction cs with
  | nil => rfl
  | cons c cs ih =>
    rw [percentEncode_cons, List.flatMap_append, List.flatMap_cons, ← ih]
    cases hc : set.holds c with
    | true => rw [if_pos rfl, percentDecode_percentChar]
    | false =>
      obtain ⟨b, hb, hne⟩ := utf8EncodeChar_of_not_holds hset hc
      rw [if_neg Bool.false_ne_true, List.flatMap_singleton, hb, List.singleton_append, percentDecode_cons hne,
        List.singleton_append]

theorem percentEncode_of_not_holds {set : EncodeSet} {cs : List Char} (h : ∀ c ∈ cs, set.holds c = false) :
    percentEncode set cs = cs := by
  induction cs with
  | nil => rfl
  | cons c cs ih =>
    obtain ⟨hc, hcs⟩ := List.forall_mem_cons.1 h
    rw [percentEncode_cons, hc, ih hcs]
    rfl

/-- The characters that bytes are written with. -/
def percentAlphabet : List Char := '%' :: (List.range 16).map hexCapital

theorem mem_percentChar {c d : Char} (h : d ∈ percentChar c) : d ∈ percentAlphabet := by
  have hdigit {n : Nat} (hn : n < 16) : hexCapital n ∈ percentAlphabet :=
    .tail _ (List.mem_map.2 ⟨n, List.mem_range.2 hn, rfl⟩)
  obtain ⟨b, -, hb⟩ := List.mem_flatMap.1 h
  have hlt : b.toNat < 256 := b.toNat_lt
  simp only [List.mem_cons, List.not_mem_nil, or_false] at hb
  rcases hb with rfl | rfl | rfl
  · exact .head _
  · exact hdigit (by omega)
  · exact hdigit (by omega)

/-- Encoding keeps what is not encoded, and writes the rest in its own characters. -/
theorem mem_percentEncode {set : EncodeSet} {cs : List Char} {c : Char} (h : c ∈ percentEncode set cs) :
    c ∈ percentAlphabet ∨ c ∈ cs ∧ set.holds c = false := by
  obtain ⟨d, hd, hin⟩ := List.mem_flatMap.1 h
  split at hin
  · exact .inl (mem_percentChar hin)
  · rename_i hnot
    obtain rfl := List.mem_singleton.1 hin
    exact .inr ⟨hd, Bool.eq_false_iff.2 hnot⟩

/-- Encoding makes no slashes, and if slashes are encoded none are left. -/
theorem slash_notMem_percentEncode {set : EncodeSet} {cs : List Char} (h : '/' ∈ set ∨ '/' ∉ cs) :
    '/' ∉ percentEncode set cs := by
  intro hmem
  rcases mem_percentEncode hmem with hin | ⟨hin, hnot⟩
  · exact absurd hin (by decide)
  · rcases h with hset | hcs
    · rw [EncodeSet.holds, List.contains_iff_mem.2 hset, Bool.or_true] at hnot
      cases hnot
    · exact hcs hin

namespace Path

/-! ## Segments and slashes -/

/-- All characters of the segments are of a class. -/
def Consists (P : Char → Prop) (list : List (List Char)) : Prop := ∀ segment ∈ list, ∀ c ∈ segment, P c

/-- No segment holds a slash. -/
def SlashFree (list : List (List Char)) : Prop := ∀ segment ∈ list, '/' ∉ segment

theorem slashFree_iff {list : List (List Char)} : SlashFree list ↔ Consists (· ≠ '/') list :=
  forall₂_congr fun _ _ => ⟨fun h _ hc heq => h (heq ▸ hc), fun h hmem => h '/' hmem rfl⟩

theorem SlashFree.append {list list' : List (List Char)} (h : SlashFree list) (h' : SlashFree list') :
    SlashFree (list ++ list') := List.forall_mem_append.2 ⟨h, h'⟩

theorem slashFree_singleton {segment : List Char} (h : '/' ∉ segment) : SlashFree [segment] :=
  List.forall_mem_singleton.2 h

theorem splitAt_segments (segment : List Char) (list : List (List Char)) (h : '/' ∉ segment)
    (hlist : SlashFree list) :
    Text.splitAt '/' (segment ++ list.flatMap ('/' :: ·)) = segment :: list := by
  induction list generalizing segment with
  | nil =>
    have hnil : Text.splitAt '/' [] = [] :: [] := rfl
    rw [List.flatMap_nil, Text.splitAt_append h hnil, List.append_nil]
  | cons other list ih =>
    obtain ⟨hother, hlist⟩ := List.forall_mem_cons.1 hlist
    have hrest : Text.splitAt '/' ('/' :: (other ++ list.flatMap ('/' :: ·))) = [] :: other :: list := by
      rw [Text.splitAt_cons_sep, ih other hother hlist]
    rw [List.flatMap_cons, List.cons_append, Text.splitAt_append h hrest, List.append_nil]

/-- The pieces of a path that is written down are its segments, behind the first slash. -/
theorem splitAt_display {list : List (List Char)} (h : SlashFree list) :
    Text.splitAt '/' (Path.segments list).display.toList = [] :: list := by
  rw [display, String.toList_ofList]
  exact splitAt_segments [] list List.not_mem_nil h

theorem split_ne_nil (kind : SchemeKind) (cs : List Char) : split kind cs ≠ [] := by
  cases cs with
  | nil => simp [split]
  | cons c cs =>
    rw [split]
    split
    · simp
    · split <;> simp

/-- The pieces of a text hold what does not end a segment. -/
theorem consists_split {P : Char → Prop} {kind : SchemeKind} {cs : List Char}
    (h : ∀ c ∈ cs, isSlash kind c = false → P c) : Consists P (split kind cs) := by
  induction cs with
  | nil => exact List.forall_mem_singleton.2 (List.forall_mem_nil _)
  | cons c cs ih =>
    obtain ⟨hc, hcs⟩ := List.forall_mem_cons.1 h
    replace ih := ih hcs
    rw [split]
    split
    · rename_i hnil
      exact absurd hnil (split_ne_nil kind cs)
    · rename_i segment others hsplit
      obtain ⟨hsegment, hothers⟩ := List.forall_mem_cons.1 (hsplit ▸ ih)
      split
      · exact List.forall_mem_cons.2 ⟨List.forall_mem_nil _, List.forall_mem_cons.2 ⟨hsegment, hothers⟩⟩
      · rename_i hslash
        have hfront := List.forall_mem_cons.2 ⟨hc (Bool.eq_false_iff.2 hslash), hsegment⟩
        exact List.forall_mem_cons.2 ⟨hfront, hothers⟩

section
variable {P : Char → Prop} {list : List (List Char)}

theorem Consists.concat (h : Consists P list) {segment : List Char} (hs : ∀ c ∈ segment, P c) :
    Consists P (list ++ [segment]) := List.forall_mem_append.2 ⟨h, List.forall_mem_singleton.2 hs⟩

theorem Consists.shorten (h : Consists P list) (kind : SchemeKind) : Consists P (shorten kind list) := by
  unfold Path.shorten
  split
  · split
    · exact h
    · exact List.forall_mem_nil _
  · exact fun segment hmem => h segment (List.dropLast_subset _ hmem)

/-- The only character that is put into a path beside those of a segment is the colon of a disk. -/
theorem Consists.push (h : Consists P list) {segment : List Char} (hs : ∀ c ∈ segment, P c) (hcolon : P ':')
    (kind : SchemeKind) (isLast : Bool) : Consists P (push kind list segment isLast) := by
  unfold Path.push
  split
  · split
    · exact (h.shorten kind).concat (List.forall_mem_nil _)
    · exact h.shorten kind
  · split
    · split
      · exact h.concat (List.forall_mem_nil _)
      · exact h
    · split
      · rename_i hdrive
        refine h.concat ?_
        cases segment with
        | nil => exact absurd hdrive.2.2 Bool.false_ne_true
        | cons c cs => exact List.forall_mem_cons.2 ⟨hs c (.head _), List.forall_mem_singleton.2 hcolon⟩
      · exact h.concat hs

theorem Consists.pushAll (h : Consists P list) {segments : List (List Char)} (hs : Consists P segments)
    (hcolon : P ':') (kind : SchemeKind) : Consists P (pushAll kind list segments) := by
  fun_induction Path.pushAll kind list segments with
  | case1 list => exact h
  | case2 list segment => exact h.push (hs segment (.head _)) hcolon kind true
  | case3 list segment others _ ih =>
    obtain ⟨hsegment, hothers⟩ := List.forall_mem_cons.1 hs
    exact ih (h.push hsegment hcolon kind false) hothers

/-- A path holds what is not encoded in paths and does not end a segment. -/
theorem consists_ofText {kind : SchemeKind}
    (h : ∀ c, EncodeSet.path.holds c = false → isSlash kind c = false → P c) (cs : List Char) :
    Consists P (ofText kind cs) := by
  have halphabet : ∀ c ∈ percentAlphabet, EncodeSet.path.holds c = false ∧ isSlash kind c = false := by
    cases kind <;> exact Text.forall_mem_of_all (by decide)
  have hencoded : Consists P ((Path.split kind cs).map (percentEncode .path)) := by
    intro segment hmem c hc
    obtain ⟨part, hpart, rfl⟩ := List.mem_map.1 hmem
    rcases mem_percentEncode hc with hin | ⟨hin, hnot⟩
    · obtain ⟨hnot, hslash⟩ := halphabet c hin
      exact h c hnot hslash
    · exact h c hnot (consists_split (fun _ _ hslash => hslash) part hpart c hin)
  have hcolon : P ':' := h ':' (by decide) (by cases kind <;> decide)
  have hpushed := (show Consists P [] from List.forall_mem_nil _).pushAll hencoded hcolon kind
  unfold Path.ofText Path.trim
  split
  · split
    · exact List.forall_mem_singleton.2 (List.forall_mem_nil _)
    · exact fun segment hmem => hpushed segment ((List.dropWhile_suffix _).subset hmem)
  · exact hpushed

end

theorem SlashFree.ofText (kind : SchemeKind) (cs : List Char) : SlashFree (ofText kind cs) := by
  refine slashFree_iff.2 (consists_ofText ?_ cs)
  rintro c - hslash rfl
  cases hslash

/-! ## Segments that are given as a whole -/

/-- A text that makes a segment as it is: nothing in it is left out, and it stands for no other place. -/
def IsWhole (s : String) : Prop := (∀ c ∈ s.toList, counts c = true) ∧ s ≠ "." ∧ s ≠ ".."

instance (s : String) : Decidable (IsWhole s) :=
  decidable_of_iff (s.toList.all counts = true ∧ s ≠ "." ∧ s ≠ "..") (by rw [IsWhole, List.all_eq_true])

/-- The segments that another one is put behind. A slash alone is no segment. -/
def rooted (list : List (List Char)) : List (List Char) := if list = [[]] then [] else list

/-- Segments that mean the same place or the one before are read as one dot or as two. -/
theorem decode_of_isDot {segment : List Char} (h : isDot segment = true) :
    percentDecode (Text.bytes (.ofList segment)) = Text.bytes "." := by
  have hall : ∀ d ∈ dots, percentDecode (Text.bytes (.ofList d)) = Text.bytes "." := by decide +kernel
  exact hall segment (List.contains_iff_mem.1 h)

theorem decode_of_isDoubleDot {segment : List Char} (h : isDoubleDot segment = true) :
    percentDecode (Text.bytes (.ofList segment)) = Text.bytes ".." := by
  have hall : ∀ d ∈ dots, ∀ d' ∈ dots, percentDecode (Text.bytes (.ofList (d ++ d'))) = Text.bytes ".." := by
    decide +kernel
  obtain ⟨d, hd, hsegment⟩ := List.any_eq_true.1 h
  obtain ⟨hfront, hrest⟩ := Bool.and_eq_true_iff.1 hsegment
  obtain ⟨d', rfl⟩ := List.isPrefixOf_iff_prefix.1 hfront
  rw [List.drop_left] at hrest
  exact hall d hd d' (List.contains_iff_mem.1 hrest)

theorem percent_mem_segmentSet (kind : SchemeKind) : '%' ∈ segmentSet kind := by
  cases kind <;> decide

theorem slash_mem_segmentSet (kind : SchemeKind) : '/' ∈ segmentSet kind := by
  cases kind <;> decide

/-- What is read from a text that is put behind a path as one segment. -/
theorem decode_segment (kind : SchemeKind) (cs : List Char) :
    percentDecode (Text.bytes (.ofList (percentEncode (segmentSet kind) cs))) = Text.bytes (.ofList cs) :=
  percentDecode_percentEncode (percent_mem_segmentSet kind) cs

theorem decode_segment_toList (kind : SchemeKind) (s : String) :
    percentDecode (Text.bytes (.ofList (percentEncode (segmentSet kind) s.toList))) = Text.bytes s := by
  rw [decode_segment, String.ofList_toList]

theorem push_eq_append {segment : List Char} {isLast : Bool} (hdot : isDot segment = false)
    (hdouble : isDoubleDot segment = false) (list : List (List Char)) :
    push .special list segment isLast = list ++ [segment] := by
  rw [push, hdot, hdouble]
  exact if_neg (by rintro ⟨⟨⟩, -⟩)

theorem extend_eq_push {cs : List Char} (h : ¬(cs = ['.'] ∨ cs = ['.', '.'])) (list : List (List Char)) :
    extend .special list cs =
      push .special (rooted list) (percentEncode (segmentSet .special) (cs.filter counts)) true := if_neg h

/-- A whole text makes one segment. -/
theorem extend_of_whole {s : String} (h : IsWhole s) (list : List (List Char)) :
    extend .special list s.toList = rooted list ++ [percentEncode (segmentSet .special) s.toList] := by
  obtain ⟨hcounts, hdot, hdouble⟩ := h
  have hnot : ¬(s.toList = ['.'] ∨ s.toList = ['.', '.']) := by
    rintro (heq | heq)
    · exact hdot (String.toList_inj.1 heq)
    · exact hdouble (String.toList_inj.1 heq)
  have hread := decode_segment_toList .special s
  rw [extend_eq_push hnot, List.filter_eq_self.2 hcounts]
  refine push_eq_append (Bool.eq_false_iff.2 fun hd => ?_) (Bool.eq_false_iff.2 fun hd => ?_) _
  · exact hdot (Text.bytes_inj.1 (hread.symm.trans (decode_of_isDot hd)))
  · exact hdouble (Text.bytes_inj.1 (hread.symm.trans (decode_of_isDoubleDot hd)))

/-- Any other text is left out, or takes away the segment before it, or makes a segment from which another text
is read. -/
theorem extend_of_not_whole {s : String} (h : ¬IsWhole s) (list : List (List Char)) :
    extend .special list s.toList = list ∨ extend .special list s.toList = (rooted list).dropLast ++ [[]] ∨
      ∃ segment, extend .special list s.toList = rooted list ++ [segment] ∧
        percentDecode (Text.bytes (.ofList segment)) ≠ Text.bytes s := by
  by_cases hdots : s.toList = ['.'] ∨ s.toList = ['.', '.']
  · exact .inl (if_pos hdots)
  have hnotDots : s ≠ "." ∧ s ≠ ".." :=
    ⟨fun heq => hdots (.inl (by rw [heq]; rfl)), fun heq => hdots (.inr (by rw [heq]; rfl))⟩
  -- so something in it does not count
  have hfilter : s.toList.filter counts ≠ s.toList := fun heq => h ⟨List.filter_eq_self.1 heq, hnotDots⟩
  rw [extend_eq_push hdots]
  generalize hsegment : percentEncode (segmentSet .special) (s.toList.filter counts) = segment
  cases hdouble : isDoubleDot segment with
  | true =>
    refine .inr (.inl ?_)
    rw [push, if_pos hdouble, if_pos rfl]
    rfl
  | false =>
    refine .inr (.inr ?_)
    cases hdot : isDot segment with
    | true =>
      refine ⟨[], ?_, fun hread => ?_⟩
      · rw [push, hdouble, hdot]
        rfl
      · have hnothing : percentDecode (Text.bytes (.ofList [])) = Text.bytes "" := by decide +kernel
        have hempty : s = "" := (Text.bytes_inj.1 (hnothing.symm.trans hread)).symm
        rw [hempty] at hfilter
        exact hfilter rfl
    | false =>
      refine ⟨segment, push_eq_append hdot hdouble _, fun hread => ?_⟩
      rw [← hsegment, decode_segment, Text.bytes_inj] at hread
      exact hfilter (by conv_rhs => rw [← hread, String.toList_ofList])

theorem rooted_of_length {list : List (List Char)} (h : 1 < list.length) : rooted list = list :=
  if_neg (by rintro rfl; exact absurd h (by decide))

theorem rooted_append {segment : List Char} (h : segment ≠ []) (list : List (List Char)) :
    rooted (list ++ [segment]) = list ++ [segment] := by
  refine if_neg fun heq => h ?_
  exact List.mem_singleton.1 (heq ▸ List.mem_append_right list (.head _))

/-- Behind a path of several segments, a text adds a segment from which it is read if it is whole; otherwise it
adds one from which another text is read, or none. -/
theorem extend_cases (s : String) {list : List (List Char)} (h : 1 < list.length) :
    (∃ segment, extend .special list s.toList = list ++ [segment] ∧
      (percentDecode (Text.bytes (.ofList segment)) = Text.bytes s ↔ IsWhole s) ∧
      (IsWhole s → segment = percentEncode (segmentSet .special) s.toList)) ∨
    ¬IsWhole s ∧
      (extend .special list s.toList = list ∨ extend .special list s.toList = list.dropLast ++ [[]]) := by
  by_cases hs : IsWhole s
  · have hread := decode_segment .special s.toList
    rw [String.ofList_toList] at hread
    have hadd := extend_of_whole hs list
    rw [rooted_of_length h] at hadd
    exact .inl ⟨_, hadd, iff_of_true hread hs, fun _ => rfl⟩
  · have hcases := extend_of_not_whole hs list
    rw [rooted_of_length h] at hcases
    rcases hcases with hsame | hback | ⟨segment, hadd, hread⟩
    · exact .inr ⟨hs, .inl hsame⟩
    · exact .inr ⟨hs, .inr hback⟩
    · exact .inl ⟨segment, hadd, iff_of_false hread hs, fun hw => absurd hw hs⟩

/-- A text of characters that are not encoded is a segment as it stands. -/
theorem extend_plain {s : String} (h : IsWhole s)
    (hplain : ∀ c ∈ s.toList, (segmentSet .special).holds c = false) (list : List (List Char)) :
    extend .special list s.toList = rooted list ++ [s.toList] := by
  rw [extend_of_whole h, percentEncode_of_not_holds hplain]

theorem SlashFree.extend {list : List (List Char)} (h : SlashFree list) (cs : List Char) :
    SlashFree (extend .special list cs) := by
  unfold Path.extend
  split
  · exact h
  · have hsegment : '/' ∉ percentEncode (segmentSet .special) (cs.filter counts) :=
      slash_notMem_percentEncode (.inl (slash_mem_segmentSet .special))
    have hfree (c : Char) (hc : c ∈ _) : c ≠ '/' := ne_of_mem_of_not_mem hc hsegment
    refine slashFree_iff.2 (Consists.push ?_ hfree (by decide) _ _)
    split
    · exact List.forall_mem_nil _
    · exact slashFree_iff.1 h

end Path

end Url

end ForgeBridge
